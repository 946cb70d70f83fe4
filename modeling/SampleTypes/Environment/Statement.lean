import SampleTypes.Text.Blank

/-!
# Statements of environment files

An environment file is a sequence of statements.  A statement may be preceded by blanks and line
ends and by the word `export`; it names a variable and may give it a value after an equals sign.
A comment may follow, and then the line ends.

* `blanks`         blanks within a line;
* `quotedValue`    a value up to its closing quote, which may stand on a later line;
* `plainValue`     a value up to the end of its line or a comment;
* `Statement`      a variable with or without a value, nothing, or a line that is no statement;
* `statements cs`  the statements of a text, before which a byte order mark may stand.  Where a
                   statement cannot be read, the rest of the line on which reading stopped is
                   passed over.
-/

namespace SampleTypes

inductive Statement where
  | nothing
  | variable (name : String) (value : Option String)
  /-- a line that is no statement -/
  | fault
  deriving DecidableEq, Repr

namespace Statement

/-- a blank within a line -/
def isInner (c : Char) : Bool := Text.isBlank c && c != '\n'

/-- the characters after the blanks within the line -/
def blanks (cs : List Char) : List Char := cs.dropWhile isInner

/-- the characters after the end of the line -/
def restOfLine (cs : List Char) : List Char := (cs.dropWhile (· != '\n')).drop 1

/-- the characters after the word `export` and blanks, or all of them -/
def dropExport (cs : List Char) : List Char :=
  let word := "export".toList
  let rest := cs.drop word.length
  if word.isPrefixOf cs && (rest.head?.any isInner) then blanks rest else cs

/-- a name in quotes after its opening quote -/
def quotedName (cs : List Char) : Option (List Char × List Char) :=
  match cs.takeWhile (· != '\x27'), cs.dropWhile (· != '\x27') with
  | c :: name, _ :: rest => some (c :: name, rest)
  | _, _ => none

def isNameChar (c : Char) : Bool := c != '=' && c != '#' && !Text.isBlank c

/-- a name that is there unless a comment starts -/
def name (cs : List Char) : Option (Option String × List Char) :=
  match cs with
  | '#' :: _ => some (none, cs)
  | '\x27' :: rest => (quotedName rest).map fun (n, rest) => (some (String.ofList n), rest)
  | cs =>
    match cs.takeWhile isNameChar with
    | [] => none
    | n => some (some (String.ofList n), cs.dropWhile isNameChar)

/-- a value after its opening quote `q`: a backslash takes the next character with it, so that a
quote behind one does not close the value -/
def quotedValue (q : Char) : List Char → Option (List Char × List Char)
  | [] => none
  | ['\\'] => none
  | '\\' :: c :: cs => (quotedValue q cs).map fun (v, rest) => ('\\' :: c :: v, rest)
  | c :: cs =>
    if c = q then some ([], cs) else (quotedValue q cs).map fun (v, rest) => (c :: v, rest)

/-- the characters that a backslash can stand before in single and in double quotes -/
def singleEscapes : List (Char × Char) := [('\\', '\\'), ('\x27', '\x27')]

def doubleEscapes : List (Char × Char) := [
  ('\\', '\\'), ('\x27', '\x27'), ('\x22', '\x22'), ('a', '\x07'), ('b', '\x08'), ('f', '\x0c'),
  ('n', '\n'), ('r', '\r'), ('t', '\t'), ('v', '\x0b')]

/-- a text with its escapes replaced -/
def unescape (escapes : List (Char × Char)) : List Char → List Char
  | '\\' :: c :: cs =>
    match escapes.lookup c with
    | some e => e :: unescape escapes cs
    | none => '\\' :: unescape escapes (c :: cs)
  | c :: cs => c :: unescape escapes cs
  | [] => []

/-- the characters before a comment, which starts with blanks and a number sign -/
def beforeComment : List Char → List Char
  | [] => []
  | c :: cs =>
    if Text.isBlank c && (cs.dropWhile Text.isBlank).head? == some '#' then []
    else c :: beforeComment cs

/-- a value without quotes: the line up to a comment, without blanks at its end -/
def plainValue (cs : List Char) : List Char × List Char :=
  (Text.dropEndWhile Text.isBlank (beforeComment (cs.takeWhile (· != '\n'))),
    cs.dropWhile (· != '\n'))

/-- a value after the equals sign -/
def value (cs : List Char) : Option (List Char × List Char) :=
  match blanks cs with
  | '\x27' :: rest =>
    (quotedValue '\x27' rest).map fun (v, rest) => (unescape singleEscapes v, rest)
  | '\x22' :: rest =>
    (quotedValue '\x22' rest).map fun (v, rest) => (unescape doubleEscapes v, rest)
  | '#' :: rest => if cs.head? = some '#' then some (plainValue cs) else some ([], '#' :: rest)
  | cs => some (plainValue cs)

/-- the characters after a comment, if there is one, and the end of the line -/
def lineEnd (cs : List Char) : Option (List Char) :=
  match blanks cs with
  | [] => some []
  | '\n' :: rest => some rest
  | '#' :: rest => some (restOfLine rest)
  | _ => none

/-- the value after a name, if an equals sign follows, or the characters where reading stops -/
def assigned (cs : List Char) : Except (List Char) (Option String × List Char) :=
  match blanks cs with
  | '=' :: rest =>
    match value rest with
    | some (v, rest) => .ok (some (String.ofList v), rest)
    | none => .error (blanks rest)
  | cs => .ok (none, cs)

/-- a statement, or the characters where reading stops -/
def read (cs : List Char) : Except (List Char) (Statement × List Char) :=
  match cs.dropWhile Text.isBlank with
  | [] => .ok (.nothing, [])
  | cs =>
    let cs := dropExport cs
    match name cs with
    | none => .error cs
    | some (n, rest) =>
      match assigned rest with
      | .error rest => .error rest
      | .ok (v, rest) =>
        match lineEnd rest with
        | none => .error rest
        | some after => .ok (n.elim .nothing (.variable · v), after)

/-- the statements of some characters; each statement takes a character at least -/
def statementsFrom : Nat → List Char → List Statement
  | 0, _ => []
  | _, [] => []
  | steps + 1, cs =>
    match read cs with
    | .ok (s, rest) => s :: statementsFrom steps rest
    | .error stop => .fault :: statementsFrom steps (restOfLine stop)

/-- the characters after a byte order mark, or all of them -/
def dropMark : List Char → List Char
  | '\ufeff' :: cs => cs
  | cs => cs

end Statement

/-- the statements of a text -/
def statements (cs : List Char) : List Statement :=
  let cs := Statement.dropMark cs
  Statement.statementsFrom cs.length cs

namespace Statement

end Statement

end SampleTypes

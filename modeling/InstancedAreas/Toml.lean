import InstancedAreas.Toml.Quoted
import InstancedAreas.Toml.Scalar
import InstancedAreas.Toml.Tree

/-! TOML documents, read into the plain values of JSON. Reading goes line by
line; arrays may run over several lines, and inline tables may not. Brackets
and the names of a key may not go deeper than a limit, and the steps of reading
are bounded by the length of the text. -/
namespace InstancedAreas.Toml

/-- What follows a comment, if there is one here. -/
def skipComment (chars : List Char) : List Char :=
  match chars with
  | '#' :: rest => rest.dropWhile isPlain
  | _ => chars

/-- What follows blanks, comments and line ends. -/
def skipLines : Nat → List Char → List Char
  | 0, chars => chars
  | fuel + 1, chars =>
    let rest := skipComment (skipBlanks chars)
    match lineEnd? rest with
    | some rest => skipLines fuel rest
    | none => rest

/-- What follows blanks, comments and line ends at the start of a text. -/
def skipGap (chars : List Char) : List Char := skipLines (chars.length + 1) chars

/-- Whether a character may stand in a name without quotes. -/
def isNameChar (c : Char) : Bool := c.isAlphanum || c == '_' || c == '-'

/-- One name of a key. -/
def name? (chars : List Char) : Option (String × List Char) :=
  match chars.takeWhile isNameChar with
  | [] => lineString? chars
  | name => some (String.ofList name, chars.drop name.length)

/-- The names of a key that points part, blanks around them left out. -/
def names? : Nat → List Char → Option (List String × List Char)
  | 0, _ => none
  | fuel + 1, chars => do
    let (name, rest) ← name? (skipBlanks chars)
    match skipBlanks rest with
    | '.' :: rest => (names? fuel rest).map fun (names, rest) => (name :: names, rest)
    | rest => some ([name], rest)

/-- How deep arrays and inline tables may lie in one another, and how many names
a key may have. -/
def deepest : Nat := 79

/-- A key: the names on the way and the last one. -/
def key? (chars : List Char) : Option ((List String × String) × List Char) := do
  let (names, rest) ← names? (chars.length + 1) chars
  let last ← names.getLast?
  if names.length ≤ deepest then some ((names.dropLast, last), rest) else none

mutual

/-- A value in which arrays and inline tables lie so deep at most. -/
def value? : Nat → Nat → List Char → Option (Json × List Char)
  | 0, _, _ => none
  | fuel + 1, depth, chars =>
    match chars, depth with
    | '[' :: _, 0 | '\x7b' :: _, 0 => none
    | '[' :: rest, depth + 1 => items? fuel depth [] (skipGap rest)
    | '\x7b' :: rest, depth + 1 =>
      match skipBlanks rest with
      | '\x7d' :: rest => some (.object [], rest)
      | rest => (pairs? fuel depth [] rest).bind fun (statements, rest) =>
          (Document.ofStatements? statements).map (·, rest)
    | c :: _, _ =>
      if c == '"' || c == '\'' then (string? chars).map fun (text, rest) => (.text text, rest)
      else
        let (text, rest) := bare chars
        (scalar? text).map (·, rest)
    | [], _ => none

/-- The items of an array whose bracket has been opened. A comma may stand
behind the last. -/
def items? : Nat → Nat → List Json → List Char → Option (Json × List Char)
  | 0, _, _, _ => none
  | fuel + 1, depth, seen, chars =>
    match chars with
    | ']' :: rest => some (.list seen.reverse, rest)
    | _ =>
      match value? fuel depth chars with
      | none => none
      | some (item, rest) =>
        match skipGap rest with
        | ',' :: rest => items? fuel depth (item :: seen) (skipGap rest)
        | ']' :: rest => some (.list (item :: seen).reverse, rest)
        | _ => none

/-- The pairs of an inline table whose brace has been opened. -/
def pairs? : Nat → Nat → List Statement → List Char → Option (List Statement × List Char)
  | 0, _, _, _ => none
  | fuel + 1, depth, seen, chars =>
    match pair? fuel depth chars with
    | none => none
    | some (pair, rest) =>
      match skipBlanks rest with
      | ',' :: rest => pairs? fuel depth (pair :: seen) rest
      | '\x7d' :: rest => some ((pair :: seen).reverse, rest)
      | _ => none

/-- A key and its value. -/
def pair? : Nat → Nat → List Char → Option (Statement × List Char)
  | 0, _, _ => none
  | fuel + 1, depth, chars =>
    match key? chars with
    | none => none
    | some ((path, name), rest) =>
      match skipBlanks rest with
      | '=' :: rest =>
        match value? fuel depth (skipBlanks rest) with
        | none => none
        | some (value, rest) => some (.pair path name value, rest)
      | _ => none

end

/-- The statement at the start of a line. -/
def statement? (chars : List Char) : Option (Statement × List Char) :=
  match chars with
  | '[' :: '[' :: rest => do
    let ((path, name), rest) ← key? rest
    match rest with
    | ']' :: ']' :: rest => some (.element path name, rest)
    | _ => none
  | '[' :: rest => do
    let ((path, name), rest) ← key? rest
    match rest with
    | ']' :: rest => some (.header path name, rest)
    | _ => none
  | _ => pair? (chars.length + 1) deepest chars

/-- What follows a line behind its statement. -/
def finishLine? (chars : List Char) : Option (List Char) :=
  match skipComment (skipBlanks chars) with
  | [] => some []
  | rest => lineEnd? rest

/-- The statements of a text. -/
def statements? : Nat → List Statement → List Char → Option (List Statement)
  | 0, _, _ => none
  | fuel + 1, seen, chars =>
    match skipGap chars with
    | [] => some seen.reverse
    | rest =>
      match statement? rest with
      | none => none
      | some (statement, rest) =>
        match finishLine? rest with
        | none => none
        | some rest => statements? fuel (statement :: seen) rest

/-- The value of a document. A byte order mark in front is skipped. -/
def parse? (text : String) : Option Json :=
  let chars := match text.toList with
    | '\ufeff' :: rest => rest
    | chars => chars
  (statements? (chars.length + 1) [] chars).bind Document.ofStatements?

end InstancedAreas.Toml

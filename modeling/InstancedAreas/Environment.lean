import InstancedAreas.Json
import InstancedAreas.Text.Blank
import InstancedAreas.Toml.Quoted

/-! Environment variables as a tree of values. A variable whose name begins
with a given word sets the value under the rest of its name, in lower case,
where two underscores lead into a table. Values are read loosely: what is not
a truth value, a number, a quoted text, a list or a table is plain text. -/
namespace InstancedAreas.Environment

/-- The characters at the start of a text that fill a number of bytes, if one
of them ends there. -/
def leading? : Nat → List Char → Option (List Char)
  | 0, _ => some []
  | _, [] => none
  | bytes, c :: rest =>
    if c.utf8Size ≤ bytes then (leading? (bytes - c.utf8Size) rest).map (c :: ·) else none

/-- The rest of a text in quotes, in which escapes may stand. -/
def escaped? : Nat → List Char → List Char → Option (String × List Char)
  | 0, _, _ => none
  | fuel + 1, seen, chars =>
    match chars with
    | '"' :: rest => some (String.ofList seen.reverse, rest)
    | '\\' :: rest => (Toml.escape? rest).bind fun (c, rest) => escaped? fuel (c :: seen) rest
    | c :: rest => if Toml.isPlain c then escaped? fuel (c :: seen) rest else none
    | [] => none

/-- A text in quotes whose opening quote has been read. Of what stands in front
of the first escape, only as many bytes are kept as it has characters. -/
def quoted? (chars : List Char) : Option (String × List Char) :=
  let start := chars.takeWhile fun c => c != '"' && c != '\\' && Toml.isPlain c
  match chars.drop start.length with
  | '"' :: rest => some (String.ofList start, rest)
  | rest => (leading? start.length start).bind fun kept =>
      escaped? (rest.length + 1) kept.reverse rest

/-- Whether a character may stand in a plain value. -/
def isPlain (c : Char) : Bool := !(",[]\x7b\x7d".toList.contains c)

/-- Whether a character may stand in a plain key. -/
def isKeyChar (c : Char) : Bool := c.isAlphanum || c == '_' || c == '-'

/-- What follows the blanks. -/
def skipBlanks (chars : List Char) : List Char := chars.dropWhile Text.isAsciiBlank

/-- Whether a text is a decimal number with a point. -/
def isReal (chars : List Char) : Bool :=
  let unsigned := match chars with
    | '-' :: rest | '+' :: rest => rest
    | _ => chars
  let whole := unsigned.takeWhile Text.isDigit
  match unsigned.drop whole.length with
  | '.' :: rest =>
    let places := rest.takeWhile Text.isDigit
    let exponent := rest.drop places.length
    !(whole.isEmpty && places.isEmpty) &&
      match exponent with
      | [] => true
      | e :: sign :: digits =>
        (e == 'e' || e == 'E') &&
          (if sign == '-' || sign == '+' then !digits.isEmpty && digits.all Text.isDigit
            else (sign :: digits).all Text.isDigit)
      | _ => false
  | _ => false

/-- A whole number: of 64 bits, or of 63 behind a minus sign. -/
def integer? (chars : List Char) : Option Json :=
  match chars with
  | '-' :: digits =>
    (Text.numeral? digits).bind fun n =>
      if Int64.minValue.toInt ≤ -(n : Int) then some (.int (-n)) else none
  | '+' :: digits | digits =>
    (Text.numeral? digits).bind fun n => if n < UInt64.size then some (.nat n) else none

/-- The value of a text without quotes or brackets. -/
def plain (chars : List Char) : Json :=
  let trimmed := Text.trimBoth Text.isBlank chars
  if isReal trimmed then .real (String.ofList trimmed)
  else (integer? trimmed).getD (.text (String.ofList trimmed))

/-- A key, plain or in quotes. -/
def key? (chars : List Char) : Option (String × List Char) :=
  match chars with
  | '"' :: rest => quoted? rest
  | _ =>
    let name := chars.takeWhile isKeyChar
    if name.isEmpty then none else some (String.ofList name, chars.drop name.length)

/-- Fields with a value under a name, in place of an earlier one. -/
def put (fields : List (String × Json)) (name : String) (value : Json) : List (String × Json) :=
  fields.filter (fun field => field.1 != name) ++ [(name, value)]

mutual

/-- A value and what follows it, blanks on both sides left out. -/
def value? : Nat → List Char → Option (Json × List Char)
  | 0, _ => none
  | fuel + 1, chars =>
    let found : Option (Json × List Char) := match skipBlanks chars with
      | 't' :: 'r' :: 'u' :: 'e' :: rest => some (.bool true, rest)
      | 'f' :: 'a' :: 'l' :: 's' :: 'e' :: rest => some (.bool false, rest)
      | '\x7b' :: rest => fields? fuel [] rest
      | '[' :: rest => items? fuel [] rest
      | '"' :: rest => (quoted? rest).map fun (text, rest) => (.text text, rest)
      | '\'' :: c :: '\'' :: rest => some (.text (String.singleton c), rest)
      | '\'' :: _ => none
      | rest =>
        let text := rest.takeWhile isPlain
        some (plain text, rest.drop text.length)
    found.map fun (value, rest) => (value, skipBlanks rest)

/-- The items of a list whose bracket has been opened, or that goes on behind a
comma. -/
def items? : Nat → List Json → List Char → Option (Json × List Char)
  | 0, _, _ => none
  | fuel + 1, seen, chars =>
    match chars with
    | ']' :: rest => some (.list seen.reverse, rest)
    | _ =>
      match value? fuel chars with
      | some (item, ',' :: rest) => items? fuel (item :: seen) rest
      | some (item, ']' :: rest) => some (.list (item :: seen).reverse, rest)
      | _ => none

/-- The fields of a table whose brace has been opened, or that goes on behind a
comma. -/
def fields? : Nat → List (String × Json) → List Char → Option (Json × List Char)
  | 0, _, _ => none
  | fuel + 1, seen, chars =>
    match chars with
    | '\x7d' :: rest => some (.object seen, rest)
    | _ =>
      match key? (skipBlanks chars) with
      | none => none
      | some (name, rest) =>
        match skipBlanks rest with
        | '=' :: rest =>
          match value? fuel rest with
          | some (value, ',' :: rest) => fields? fuel (put seen name value) rest
          | some (value, '\x7d' :: rest) => some (.object (put seen name value), rest)
          | _ => none
        | _ => none

end

/-- The value that the text of a variable stands for. -/
def valueOf (text : String) : Json :=
  match value? (text.length + 1) text.toList with
  | some (value, []) => value
  | _ => .text text

/-- A value under the names of a path, the first the outermost. -/
def nest (value : Json) : List String → Json
  | [] => value
  | name :: path => .object [(name, nest value path)]

/-- The names of a path that a variable's name spells. -/
def path (name : String) : List String :=
  ((name.map Char.toLower).splitOn "__").flatMap (·.splitOn ".")

/-- A name without the white space at its two ends. -/
def trimmed (name : String) : String :=
  String.ofList (Text.trimBoth Text.isBlank name.toList)

/-- What follows a word at the start of a name, in either case. -/
def behindWord? (word name : String) : Option String :=
  let start := name.toList.take word.length
  if start.map Char.toLower = word.toList.map Char.toLower then
    some (String.ofList (name.toList.drop word.length))
  else none

/-- The trees of the variables whose names begin with a word, in order. White
space around a name, and between the word and the rest, is left out. A path
with an empty name in it sets nothing. -/
def trees (word : String) (assignments : List (String × String)) : List Json :=
  assignments.filterMap fun (name, text) => do
    let rest ← behindWord? word (trimmed name)
    let names := path (trimmed rest)
    if names.contains "" then none else some (nest (valueOf text) names)

end InstancedAreas.Environment

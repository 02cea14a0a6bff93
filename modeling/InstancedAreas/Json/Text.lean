import InstancedAreas.Json
import InstancedAreas.Text.Digits

/-! The text of JSON values: compact writing, and reading by descent. The
reader's depth is bounded by the length of the text, which no value exceeds. -/
namespace InstancedAreas.Json

/-- The escape of a character inside a JSON text: the quote, the backslash and
the control characters are escaped, and all else stands for itself. -/
def escape (c : Char) : List Char :=
  if c = '"' then ['\\', '"']
  else if c = '\\' then ['\\', '\\']
  else if c = '\n' then ['\\', 'n']
  else if c = '\r' then ['\\', 'r']
  else if c = '\t' then ['\\', 't']
  else if c = '\x08' then ['\\', 'b']
  else if c = '\x0c' then ['\\', 'f']
  else if c.toNat < 0x20 then '\\' :: 'u' :: Text.padded 16 4 c.toNat
  else [c]

/-- A text between quotes. -/
def quoted (text : String) : String :=
  "\"" ++ String.ofList (text.toList.flatMap escape) ++ "\""

mutual

/-- The compact text of a value. -/
def render : Json → String
  | .null => "null"
  | .bool true => "true"
  | .bool false => "false"
  | .nat n => Text.decimal n
  | .int (.ofNat n) => Text.decimal n
  | .int (.negSucc n) => "-" ++ Text.decimal (n + 1)
  | .real numeral => numeral
  | .text value => quoted value
  | .list items => "[" ++ ",".intercalate (renderItems items) ++ "]"
  | .object fields => "\x7b" ++ ",".intercalate (renderFields fields) ++ "\x7d"

/-- The texts of the members of a list. -/
def renderItems : List Json → List String
  | [] => []
  | item :: rest => render item :: renderItems rest

/-- The texts of the fields of an object. -/
def renderFields : List (String × Json) → List String
  | [] => []
  | (name, value) :: rest => (quoted name ++ ":" ++ render value) :: renderFields rest

end

/-- A text without the white space that JSON allows between tokens. -/
def skipSpace (chars : List Char) : List Char :=
  chars.dropWhile fun c => c == ' ' || c == '\n' || c == '\r' || c == '\t'

/-- The number of four hexadecimal digits. -/
def hexUnit? : List Char → Option (Nat × List Char)
  | a :: b :: c :: d :: rest => (Text.ofDigits? 16 [a, b, c, d]).map (·, rest)
  | _ => none

/-- The character of a `\u` escape, two escapes joined where the first is the
high half of a pair. -/
def unicodeEscape? (chars : List Char) : Option (Char × List Char) := do
  let (high, rest) ← hexUnit? chars
  if 0xD800 ≤ high ∧ high < 0xDC00 then
    match rest with
    | '\\' :: 'u' :: low =>
      let (low, rest) ← hexUnit? low
      if 0xDC00 ≤ low ∧ low < 0xE000 then
        some (Char.ofNat (0x10000 + (high - 0xD800) * 0x400 + (low - 0xDC00)), rest)
      else none
    | _ => none
  else if 0xDC00 ≤ high ∧ high < 0xE000 then none
  else some (Char.ofNat high, rest)

/-- The rest of a text whose opening quote has been read. -/
def readQuoted : Nat → List Char → List Char → Option (String × List Char)
  | 0, _, _ => none
  | fuel + 1, seen, chars =>
    match chars with
    | '"' :: rest => some (String.ofList seen.reverse, rest)
    | '\\' :: 'u' :: rest => do
      let (c, rest) ← unicodeEscape? rest
      readQuoted fuel (c :: seen) rest
    | '\\' :: c :: rest =>
      let meant := match c with
        | '"' => some '"'
        | '\\' => some '\\'
        | '/' => some '/'
        | 'b' => some '\x08'
        | 'f' => some '\x0c'
        | 'n' => some '\n'
        | 'r' => some '\r'
        | 't' => some '\t'
        | _ => none
      meant.bind fun d => readQuoted fuel (d :: seen) rest
    | c :: rest => if c.toNat < 0x20 then none else readQuoted fuel (c :: seen) rest
    | [] => none

/-- A number. It is whole when it has neither fraction nor exponent and is not
a negative zero. -/
def readNumber (chars : List Char) : Option (Json × List Char) :=
  let (sign, unsigned) := match chars with
    | '-' :: rest => (true, rest)
    | _ => (false, chars)
  let digits := unsigned.takeWhile Text.isDigit
  let rest := unsigned.dropWhile Text.isDigit
  if digits.isEmpty || (digits.head? == some '0' && digits.length != 1) then none
  else
    let fraction := match rest with
      | '.' :: tail => '.' :: tail.takeWhile Text.isDigit
      | _ => []
    let rest := rest.drop fraction.length
    let exponent := match rest with
      | e :: sign :: tail =>
        if e == 'e' || e == 'E' then
          if sign == '+' || sign == '-' then e :: sign :: tail.takeWhile Text.isDigit
          else e :: (sign :: tail).takeWhile Text.isDigit
        else []
      | _ => []
    let rest := rest.drop exponent.length
    if fraction.length = 1 || (exponent.getLast?.any fun c => !Text.isDigit c) then none
    else if fraction.isEmpty && exponent.isEmpty then
      match Text.ofDigits? 10 digits, sign with
      | none, _ => none
      | some 0, true => some (.real "-0", rest)
      | some n, true => some (.int (-(n : Int)), rest)
      | some n, false => some (.nat n, rest)
    else
      some (.real (String.ofList ((if sign then ['-'] else []) ++ digits ++ fraction ++ exponent)), rest)

/-- Fields with one more, in place of an earlier field of that name. -/
def putField (fields : List (String × Json)) (name : String) (value : Json) :
    List (String × Json) :=
  fields.filter (fun field => field.1 != name) ++ [(name, value)]

mutual

/-- A value and the text behind it. -/
def readValue : Nat → List Char → Option (Json × List Char)
  | 0, _ => none
  | fuel + 1, chars =>
    match skipSpace chars with
    | 'n' :: 'u' :: 'l' :: 'l' :: rest => some (.null, rest)
    | 't' :: 'r' :: 'u' :: 'e' :: rest => some (.bool true, rest)
    | 'f' :: 'a' :: 'l' :: 's' :: 'e' :: rest => some (.bool false, rest)
    | '"' :: rest => (readQuoted (rest.length + 1) [] rest).map fun (t, rest) => (.text t, rest)
    | '[' :: rest =>
      match skipSpace rest with
      | ']' :: rest => some (.list [], rest)
      | _ => readItems fuel [] rest
    | '\x7b' :: rest =>
      match skipSpace rest with
      | '\x7d' :: rest => some (.object [], rest)
      | _ => readFields fuel [] rest
    | rest => readNumber rest

/-- The members of a list whose bracket has been opened. -/
def readItems : Nat → List Json → List Char → Option (Json × List Char)
  | 0, _, _ => none
  | fuel + 1, seen, chars =>
    match readValue fuel chars with
    | none => none
    | some (item, rest) =>
      match skipSpace rest with
      | ',' :: rest => readItems fuel (item :: seen) rest
      | ']' :: rest => some (.list (item :: seen).reverse, rest)
      | _ => none

/-- The fields of an object whose brace has been opened. -/
def readFields : Nat → List (String × Json) → List Char → Option (Json × List Char)
  | 0, _, _ => none
  | fuel + 1, seen, chars =>
    match skipSpace chars with
    | '"' :: rest =>
      match readQuoted (rest.length + 1) [] rest with
      | none => none
      | some (name, rest) =>
        match skipSpace rest with
        | ':' :: rest =>
          match readValue fuel rest with
          | none => none
          | some (value, rest) =>
            match skipSpace rest with
            | ',' :: rest => readFields fuel (putField seen name value) rest
            | '\x7d' :: rest => some (.object (putField seen name value), rest)
            | _ => none
        | _ => none
    | _ => none

end

/-- The value that a whole text spells. -/
def parse? (text : String) : Option Json :=
  match readValue (text.length + 1) text.toList with
  | some (value, rest) => if (skipSpace rest).isEmpty then some value else none
  | none => none

end InstancedAreas.Json

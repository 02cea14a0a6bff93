import InstancedAreas.Text.Digits

/-! The four kinds of TOML strings: with escapes between quotes or as they
stand between apostrophes, and each of them on one line or on several. Line
ends inside a string are line feeds, however they are written. -/
namespace InstancedAreas.Toml

/-- Whether a character may stand in a comment or a string. Of the control
characters only the tab may. -/
def isPlain (c : Char) : Bool := c == '\t' || (0x20 ≤ c.toNat && c.toNat != 0x7f)

/-- Blanks that do not end a line. -/
def isBlankInLine (c : Char) : Bool := c == ' ' || c == '\t'

/-- What follows the blanks of a line. -/
def skipBlanks (chars : List Char) : List Char := chars.dropWhile isBlankInLine

/-- What follows a line end. -/
def lineEnd? : List Char → Option (List Char)
  | '\n' :: rest => some rest
  | '\r' :: '\n' :: rest => some rest
  | _ => none

/-- The character with a number of so many hexadecimal digits. -/
def codePoint? (digits : Nat) (chars : List Char) : Option (Char × List Char) := do
  let written := chars.take digits
  if written.length = digits then
    let n ← Text.ofDigits? 16 written
    if n.isValidChar then some (Char.ofNat n, chars.drop digits) else none
  else none

/-- The character that an escape stands for, behind the backslash. -/
def escape? : List Char → Option (Char × List Char)
  | 'b' :: rest => some ('\x08', rest)
  | 't' :: rest => some ('\t', rest)
  | 'n' :: rest => some ('\n', rest)
  | 'f' :: rest => some ('\x0c', rest)
  | 'r' :: rest => some ('\r', rest)
  | '"' :: rest => some ('"', rest)
  | '\\' :: rest => some ('\\', rest)
  | 'u' :: rest => codePoint? 4 rest
  | 'U' :: rest => codePoint? 8 rest
  | _ => none

/-- The rest of a string with escapes on one line. -/
def basic? : Nat → List Char → List Char → Option (String × List Char)
  | 0, _, _ => none
  | fuel + 1, seen, chars =>
    match chars with
    | '"' :: rest => some (String.ofList seen.reverse, rest)
    | '\\' :: rest => do
      let (c, rest) ← escape? rest
      basic? fuel (c :: seen) rest
    | c :: rest => if isPlain c then basic? fuel (c :: seen) rest else none
    | [] => none

/-- The rest of a string without escapes on one line. -/
def literal? (chars : List Char) : Option (String × List Char) :=
  let inside := chars.takeWhile fun c => c != '\'' && isPlain c
  match chars.drop inside.length with
  | '\'' :: rest => some (String.ofList inside, rest)
  | _ => none

/-- What ends a string of several lines: three quotes, up to two more in front
of which belong to the string. Yields the number of those. -/
def closing? (quote : Char) (chars : List Char) : Option (Nat × List Char) :=
  let run := (chars.takeWhile (· == quote)).length
  if run < 3 then none
  else
    let extra := min (run - 3) 2
    some (extra, chars.drop (3 + extra))

/-- What follows the line ends and blanks behind an escaped line end. -/
def skipFold (chars : List Char) : List Char :=
  chars.dropWhile fun c => isBlankInLine c || c == '\n' || c == '\r'

/-- Whether every carriage return in front of the rest ends a line. -/
def foldsLines (chars : List Char) : Bool :=
  let folded := chars.take (chars.length - (skipFold chars).length)
  (folded.zip (folded.drop 1 ++ ['x'])).all fun (c, next) => c != '\r' || next == '\n'

/-- The rest of a string of several lines, with escapes or without. -/
def lines? (quote : Char) (escapes : Bool) : Nat → List Char → List Char →
    Option (String × List Char)
  | 0, _, _ => none
  | fuel + 1, seen, chars =>
    match closing? quote chars with
    | some (extra, rest) =>
      some (String.ofList (seen.reverse ++ List.replicate extra quote), rest)
    | none =>
      match lineEnd? chars with
      | some rest => lines? quote escapes fuel ('\n' :: seen) rest
      | none =>
        match chars with
        | [] => none
        | c :: rest =>
          if c == '\\' && escapes then
            match lineEnd? (skipBlanks rest) with
            | some rest =>
              if foldsLines rest then lines? quote escapes fuel seen (skipFold rest) else none
            | none => (escape? rest).bind fun (c, rest) => lines? quote escapes fuel (c :: seen) rest
          else if isPlain c then lines? quote escapes fuel (c :: seen) rest
          else none

/-- What follows a line end right behind the opening quotes, which is not part
of the string. -/
def afterOpening (chars : List Char) : List Char := (lineEnd? chars).getD chars

/-- A string on one line. -/
def lineString? : List Char → Option (String × List Char)
  | '"' :: rest => basic? (rest.length + 1) [] rest
  | '\'' :: rest => literal? rest
  | _ => none

/-- A string of any kind. -/
def string? : List Char → Option (String × List Char)
  | '"' :: '"' :: '"' :: rest => lines? '"' true (rest.length + 1) [] (afterOpening rest)
  | '\'' :: '\'' :: '\'' :: rest => lines? '\'' false (rest.length + 1) [] (afterOpening rest)
  | chars => lineString? chars

end InstancedAreas.Toml

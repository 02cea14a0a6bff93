/-! White space as Unicode defines it, and the texts that hold nothing else.
Names and durations are read with this notion of blank throughout. -/
namespace InstancedAreas.Text

/-- The characters with the Unicode property `White_Space`. -/
def isBlank (c : Char) : Bool :=
  let n := c.toNat
  (9 ≤ n && n ≤ 13) || n == 0x20 || n == 0x85 || n == 0xA0 || n == 0x1680 ||
    (0x2000 ≤ n && n ≤ 0x200A) || n == 0x2028 || n == 0x2029 || n == 0x202F ||
    n == 0x205F || n == 0x3000

/-- Whether a text is empty or holds white space alone. -/
def blank (text : String) : Bool := text.toList.all isBlank

/-- A text without the white space at its start. -/
def trimStart (chars : List Char) : List Char := chars.dropWhile isBlank

/-- A text without the characters of a class at its two ends. -/
def trimBoth (skip : Char → Bool) (chars : List Char) : List Char :=
  ((chars.dropWhile skip).reverse.dropWhile skip).reverse

/-- The five white space characters of ASCII. -/
def isAsciiBlank (c : Char) : Bool :=
  c == ' ' || c == '\t' || c == '\n' || c == '\x0c' || c == '\r'

end InstancedAreas.Text

import Ipsc2Hbp.Construction.Ipsc

namespace Ipsc2Hbp
open BigEndian

/-- `str.isspace` of one character -/
def isSpace (char : Char) : Bool :=
  let code := char.toNat
  (0x09 ≤ code && code ≤ 0x0d) || (0x1c ≤ code && code ≤ 0x20) || code = 0x85 || code = 0xa0 ||
    code = 0x1680 || (0x2000 ≤ code && code ≤ 0x200a) || code = 0x2028 || code = 0x2029 ||
    code = 0x202f || code = 0x205f || code = 0x3000

/-- `str.strip` -/
def strip (text : String) : String :=
  String.ofList ((text.toList.dropWhile isSpace).reverse.dropWhile isSpace).reverse

/-- The upper case of one character. Every character that is left as it is here and that Python changes
becomes one outside ASCII, as it has been before. -/
def upperChar (char : Char) : List Char :=
  if 'a' ≤ char ∧ char ≤ 'z' then [char.toUpper]
  else match char.toNat with
  | 0x00df => ['S', 'S']
  | 0x0131 => ['I']
  | 0x017f => ['S']
  | 0xfb00 => ['F', 'F']
  | 0xfb01 => ['F', 'I']
  | 0xfb02 => ['F', 'L']
  | 0xfb03 => ['F', 'F', 'I']
  | 0xfb04 => ['F', 'F', 'L']
  | 0xfb05 => ['S', 'T']
  | 0xfb06 => ['S', 'T']
  | _ => [char]

/-- `str.upper`, as far as a comparison with an ASCII text can tell -/
def upper (text : String) : String := String.ofList (text.toList.flatMap upperChar)

/-- `str.zfill` keeps a leading sign in front of the zeros. -/
def zfill (width : Nat) (text : String) : String :=
  let zeros := List.replicate (width - text.length) '0'
  match text.toList with
  | [] => String.ofList zeros
  | first :: rest =>
      if first = '+' ∨ first = '-' then String.ofList (first :: (zeros ++ rest))
      else String.ofList (zeros ++ first :: rest)

/-- The white space of ASCII, as `bytes.fromhex` skips it. -/
def isAsciiSpace (char : Char) : Bool :=
  let code := char.toNat
  (0x09 ≤ code && code ≤ 0x0d) || code = 0x20

/-- The scan of `bytes.fromhex` from a position on fails at the position of the first wrong character. -/
def hexPairs : Nat → List Char → Except Nat Bytes
  | _, [] => .ok []
  | pos, [char] =>
      if isAsciiSpace char then .ok []
      else if (digitValue 16 char).isNone then .error pos
      else .error (pos + 1)
  | pos, char :: next :: rest =>
      if isAsciiSpace char then hexPairs (pos + 1) (next :: rest)
      else match digitValue 16 char, digitValue 16 next with
      | none, _ => .error pos
      | some _, none => .error (pos + 1)
      | some top, some bot =>
          (hexPairs (pos + 2) rest).map fun bytes => UInt8.ofNat (16 * top + bot) :: bytes

/-- `bytes.fromhex` first looks for a character outside ASCII. -/
def fromhex (text : String) : Except Nat Bytes :=
  match text.toList.findIdx? fun char => 128 ≤ char.toNat with
  | some pos => .error pos
  | none => hexPairs 0 text.toList

/-- The escape of a character code in so many hexadecimal digits. -/
def escapeCode (mark : Char) (width code : Nat) : List Char :=
  ['\\', mark] ++ (Nat.toDigits 16 code).leftpad width '0'

/-- `repr` of a text; `printable` is `str.isprintable` of the characters outside ASCII. -/
def reprStr (printable : Char → Bool) (text : String) : String :=
  let apostrophe := Char.ofNat 0x27
  let quote := if text.toList.contains apostrophe && !text.toList.contains '"' then '"' else apostrophe
  let escape (char : Char) : List Char :=
    let code := char.toNat
    if char = quote ∨ char = '\\' then ['\\', char]
    else if char = '\t' then ['\\', 't']
    else if char = '\n' then ['\\', 'n']
    else if char = '\r' then ['\\', 'r']
    else if code < 0x20 ∨ code = 0x7f then escapeCode 'x' 2 code
    else if code < 0x7f ∨ printable char then [char]
    else if code ≤ 0xff then escapeCode 'x' 2 code
    else if code ≤ 0xffff then escapeCode 'u' 4 code
    else escapeCode 'U' 8 code
  String.ofList ([quote] ++ text.toList.flatMap escape ++ [quote])

end Ipsc2Hbp

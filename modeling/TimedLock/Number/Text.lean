import TimedLock.Number.Rounding
import TimedLock.Number.Shortest
import TimedLock.Text.Integer

/-!
# The text of numbers

`Layout` holds every decision about how a double looks once its shortest digits are known. The
reader takes any decimal spelling and rounds once.
-/

namespace TimedLock.Number

/-- How a double is laid out. -/
structure Layout where
  /-- The least decimal exponent that is written positionally. -/
  leastPositional : Int
  /-- The first decimal exponent that is not. -/
  firstScientific : Int
  /-- The fewest digits of a written exponent. -/
  exponentWidth : Nat
  /-- What follows a whole number written positionally. -/
  wholeTail : String
  infinite : String
  undefinedText : String

/-- Positional from 0.0001 up to 16 digits, two exponent digits, and a point in every number that
is not in exponent form. -/
def plainLayout : Layout := ⟨-4, 16, 2, ".0", "inf", "nan"⟩

/-- The decimal digits of a number, most significant first. -/
def digitsOf (n : Nat) : List Char := Nat.toDigits 10 n

/-- Drops the zeros at the end. -/
def dropTrailingZeros (cs : List Char) : List Char := (cs.reverse.dropWhile (· = '0')).reverse

/-- An exponent with its sign and at least `width` digits. -/
def Layout.exponent (layout : Layout) (k : Int) : List Char :=
  let digits := digitsOf k.natAbs
  'e' :: (if k < 0 then '-' else '+') ::
    (List.replicate (layout.exponentWidth - digits.length) '0' ++ digits)

/-- Lays out significant digits whose first stands at decimal exponent `top`. -/
def Layout.place (layout : Layout) (digits : List Char) (top : Int) : List Char :=
  if layout.leastPositional ≤ top && top < layout.firstScientific then
    if top < 0 then
      '0' :: '.' :: (List.replicate (-top - 1).toNat '0' ++ digits)
    else
      let whole := top.toNat + 1
      if digits.length ≤ whole then
        digits ++ List.replicate (whole - digits.length) '0' ++ layout.wholeTail.toList
      else digits.take whole ++ '.' :: digits.drop whole
  else
    match digits with
    | [] => []
    | [d] => d :: layout.exponent top
    | d :: rest => d :: '.' :: rest ++ layout.exponent top

/-- Writes a double. -/
def Layout.write (layout : Layout) (x : Float) : String :=
  let p := parts x
  let body := match p.exponent with
    | none => if p.mantissa = 0 then layout.infinite.toList else layout.undefinedText.toList
    | some e =>
      if p.mantissa = 0 then '0' :: layout.wholeTail.toList
      else
        let (n, place) := shortest p.mantissa e
        let digits := digitsOf n
        layout.place (dropTrailingZeros digits) (place + digits.length - 1)
  let isNumber := p.exponent.isSome || p.mantissa == 0
  String.ofList (if p.negative && isNumber then '-' :: body else body)

/-- Writes a double the way this library shows it. -/
def writeFloat (x : Float) : String := plainLayout.write x

/-! ## Reading -/

/-- Digits at the front of a text, as a number and how many there were, and what follows. -/
def takeDigits (cs : List Char) : Nat × Nat × List Char :=
  let digits := cs.takeWhile Char.isDigit
  (digits.foldl (fun n c => 10 * n + (c.toNat - 48)) 0, digits.length, cs.dropWhile Char.isDigit)

/-- `n · 10 ^ place`, rounded; magnitudes beyond every double are not computed. -/
def ofDecimal (negative : Bool) (n : Nat) (place : Int) : Float :=
  let top := digitCount n + place
  if n = 0 || top < -400 then ofPattern negative 0 patternLimit_pos
  else if 400 < top then infinity negative
  else
    let pattern := nearestPattern (n * tenTo place.toNat) (tenTo (-place).toNat)
    if h : pattern < patternLimit then ofPattern negative pattern h else infinity negative

/-- Reads an exponent, which must be the whole rest of the text. -/
def readExponent? : List Char → Option Int
  | [] => some 0
  | mark :: rest =>
    if mark = 'e' || mark = 'E' then
      let (negative, rest) := match rest with
        | '-' :: r => (true, r)
        | '+' :: r => (false, r)
        | r => (false, r)
      let (n, count, tail) := takeDigits rest
      if count = 0 || !tail.isEmpty then none else some (if negative then -n else n)
    else none

/-- Reads the words for the numbers that have no digits. -/
def readWord? (negative : Bool) (cs : List Char) : Option Float :=
  let word := String.ofList (cs.map Char.toLower)
  if word = "inf" || word = "infinity" then some (infinity negative)
  else if word = "nan" then some undefinedFloat
  else none

/-- Drops the underscores of a numeral, each of which must stand between two digits. `afterDigit`
says that a digit was read last. -/
def dropUnderscores? (afterDigit : Bool) : List Char → Option (List Char)
  | [] => some []
  | c :: rest =>
    if c = '_' then
      let beforeDigit := match rest with
        | d :: _ => d.isDigit
        | [] => false
      if afterDigit && beforeDigit then dropUnderscores? false rest else none
    else (dropUnderscores? c.isDigit rest).map (c :: ·)

/-- Reads a double from any decimal spelling without underscores. -/
def readPlain? (cs : List Char) : Option Float :=
  let (negative, cs) := Text.splitSign cs
  match readWord? negative cs with
  | some x => some x
  | none =>
    let (whole, wholeCount, rest) := takeDigits cs
    let (part, partCount, rest) := match rest with
      | '.' :: r => takeDigits r
      | r => (0, 0, r)
    if wholeCount + partCount = 0 then none
    else (readExponent? rest).map fun k =>
      ofDecimal negative (whole * tenTo partCount + part) (k - partCount)

/-- Reads a double from any decimal spelling, in digits of any script, with single underscores
between digits and blanks around it. -/
def readFloat? (s : String) : Option Float :=
  (dropUnderscores? false (Text.trimBy Text.isAsciiBlank (Text.plainNumeral s.toList))).bind
    readPlain?

end TimedLock.Number

import TimedLock.Text.Hex
import TimedLock.Text.Printable

/-!
# Quoted text

Text inside a larger value is written between quotes. The quote is `'`, unless the text holds `'`
and no `"`; backslashes and the chosen quote are escaped, and characters that have no shape of
their own are written by number. Bytes are quoted by the same rule, with a `b` in front and every
byte outside printable ASCII written by number.
-/

namespace TimedLock.Text

/-- The quote that a text is written in. -/
def quoteFor (cs : List Char) : Char :=
  if cs.contains '\'' && !cs.contains '"' then '"' else '\''

/-- A character by its number, in the shortest of the three forms that holds it. -/
def numbered (n : Nat) : List Char :=
  if n < 0x100 then '\\' :: 'x' :: hex 2 n
  else if n < 0x10000 then '\\' :: 'u' :: hex 4 n
  else '\\' :: 'U' :: hex 8 n

/-- One character of text quoted with `quote`, where `shown` tells what stands for itself. -/
def escape (shown : Char → Bool) (quote c : Char) : List Char :=
  if c = quote || c = '\\' then ['\\', c]
  else if c = '\n' then ['\\', 'n']
  else if c = '\r' then ['\\', 'r']
  else if c = '\t' then ['\\', 't']
  else if shown c then [c]
  else numbered c.toNat

/-- Characters between quotes. -/
def quoteBy (shown : Char → Bool) (cs : List Char) : List Char :=
  let quote := quoteFor cs
  quote :: cs.flatMap (escape shown quote) ++ [quote]

/-- Text between quotes. -/
def quoted (s : String) : String := String.ofList (quoteBy isShown s.toList)

/-- Bytes between quotes. -/
def quotedBytes (bytes : List UInt8) : String :=
  let isPlain (c : Char) : Bool := 0x20 ≤ c.toNat && c.toNat < 0x7F
  String.ofList ('b' :: quoteBy isPlain (bytes.map fun b => Char.ofNat b.toNat))

example : quoted "it's" = "\"it's\"" := by cbv
example : quoted "\"it's\"\n" = "'\"it\\'s\"\\n'" := by cbv
example : quotedBytes [0x61, 0x27, 0xff] = "b\"a'\\xff\"" := by cbv

end TimedLock.Text

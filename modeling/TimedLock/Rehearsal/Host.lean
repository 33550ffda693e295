import TimedLock.Rehearsal.Problem
import TimedLock.Text.Split

/-!
# Hosts of addresses

A host may stand in brackets, and then it must be a numeric address of eight groups, or of a later
version. No host may hold a character that stands for a mark which would end the host.
`requireHost` says what is wrong with a host.
-/

namespace TimedLock.Rehearsal

/-! ## Numeric addresses -/

/-- Whether a character is a hexadecimal digit, in either case. -/
def isHexDigit (c : Char) : Bool := c.isDigit || 'a' ≤ c && c ≤ 'f' || 'A' ≤ c && c ≤ 'F'

/-- Whether a text is a number up to 255, without zeros in front. -/
def isOctet (cs : List Char) : Bool :=
  let value := cs.foldl (fun n c => 10 * n + (c.toNat - 48)) 0
  cs.all Char.isDigit && 1 ≤ cs.length && cs.length ≤ 3
    && (cs = ['0'] || cs.head? ≠ some '0') && value ≤ 255

/-- Whether a text is four numbers with dots between them. -/
def isDotted (cs : List Char) : Bool :=
  let octets := Text.pieces '.' cs
  octets.length = 4 && octets.all isOctet

/-- Whether a text is a group: one to four hexadecimal digits. -/
def isGroup (cs : List Char) : Bool := 1 ≤ cs.length && cs.length ≤ 4 && cs.all isHexDigit

/-- How many groups there are before a gap, if there are only groups. -/
def frontCount? (front : List Char) : Option Nat :=
  if front.isEmpty then some 0
  else
    let groups := Text.pieces ':' front
    if groups.all isGroup then some groups.length else none

/-- How many groups some pieces make up. Four numbers with dots count as two groups, at the end. -/
def groupCount? : List (List Char) → Option Nat
  | [] => some 0
  | [last] => if isGroup last then some 1 else if isDotted last then some 2 else none
  | piece :: rest => if isGroup piece then (groupCount? rest).map (· + 1) else none

/-- How many groups there are at the end of an address. -/
def backCount? (back : List Char) : Option Nat :=
  if back.isEmpty then some 0 else groupCount? (Text.pieces ':' back)

/-- What stands before and after the first gap, which is two colons. -/
def cutAtGap? : List Char → Option (List Char × List Char)
  | ':' :: ':' :: rest => some ([], rest)
  | c :: rest => (cutAtGap? rest).map fun (before, after) => (c :: before, after)
  | [] => none

/-- Whether a text is eight groups, or fewer with one gap for those that are left out. -/
def isGrouped (cs : List Char) : Bool :=
  match cutAtGap? cs with
  | none => groupCount? (Text.pieces ':' cs) = some 8
  | some (front, back) =>
    match frontCount? front, backCount? back with
    | some m, some n => m + n ≤ 7
    | _, _ => false

/-- Whether a text is eight groups, with a zone after a percent sign or not. -/
def isZoned (cs : List Char) : Bool :=
  match Text.pieces '%' cs with
  | [address] => isGrouped address
  | [address, zone] => isGrouped address && !zone.isEmpty
  | _ => false

/-- Whether a text is an address of a later version: the version, a dot and anything. -/
def isFuture : List Char → Bool
  | 'v' :: rest =>
    let version := rest.takeWhile isHexDigit
    match rest.dropWhile isHexDigit with
    | '.' :: _ :: _ => !version.isEmpty
    | _ => false
  | _ => false

example : isZoned "::1".toList = true := by decide +kernel
example : isZoned "fe80::1:2%eth0".toList = true := by decide +kernel
example : isZoned "1:2:3:4:5:6:255.0.0.1".toList = true := by decide +kernel
example : isZoned "1:2:3:4:5:6:7::8".toList = false := by decide +kernel
example : isZoned "1::2::3".toList = false := by decide +kernel
example : isDotted "1.2.3.04".toList = false := by decide +kernel

/-! ## Hosts -/

/-- The characters that stand for a slash, a question mark, a number sign, an at sign or a colon,
alone or together with other characters. -/
def disguisedMarks : List Nat :=
  [0x2047, 0x2048, 0x2049, 0x2100, 0x2101, 0x2105, 0x2106, 0x2A74, 0xFE13, 0xFE16, 0xFE55, 0xFE56,
   0xFE5F, 0xFE6B, 0xFF03, 0xFF0F, 0xFF1A, 0xFF1F, 0xFF20]

/-- Requires that what stands in brackets may stand there. -/
def requireBracketed (cs : List Char) : Except Fault Unit :=
  if cs.head? = some 'v' then
    if isFuture cs then .ok () else .error Problem.badFutureAddress.fault
  else if isDotted cs then .error Problem.dottedInBrackets.fault
  else if isZoned cs then .ok ()
  else .error (Problem.notNumericAddress (String.ofList cs)).fault

/-- Requires that brackets come in pairs, and that what stands in the first pair may. -/
def requireBrackets (host : List Char) : Except Fault Unit :=
  match host.contains '[', host.contains ']' with
  | true, true => requireBracketed (((host.dropWhile (· ≠ '[')).drop 1).takeWhile (· ≠ ']'))
  | false, false => .ok ()
  | _, _ => .error Problem.unpairedBracket.fault

/-- Requires that a host is one. -/
def requireHost (host : List Char) : Except Fault Unit := do
  requireBrackets host
  if host.any fun c => disguisedMarks.contains c.toNat then
    .error (Problem.disguisedMark (String.ofList host)).fault

end TimedLock.Rehearsal

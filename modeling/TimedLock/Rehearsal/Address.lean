import TimedLock.App.Endpoint
import TimedLock.Rehearsal.Host
import TimedLock.Text.Split

/-!
# Addresses of requests

A request of a rehearsal is made to an address: a path, with a scheme and a host before it or not,
and with a query and a fragment after it or not. `requestTo` takes the address apart and resolves
its escapes, so that the application sees the path and the parameters that are meant.
-/

namespace TimedLock.Rehearsal

/-! ## Taking an address apart -/

/-- The parts of an address that matter, with their escapes. -/
structure Address where
  path : List Char
  query : List Char
deriving DecidableEq, Repr

/-- The characters of a scheme. -/
def isSchemeChar (c : Char) : Bool := c.isAlphanum || c = '+' || c = '-' || c = '.'

/-- Drops a scheme: what stands before the first colon, if it starts with a letter and could be
one. -/
def dropScheme (cs : List Char) : List Char :=
  match cs.takeWhile isSchemeChar, cs.dropWhile isSchemeChar with
  | c :: _, ':' :: rest => if c.isAlpha then rest else cs
  | _, _ => cs

/-- Splits off a host: what stands between two slashes and the path. -/
def splitHost : List Char → List Char × List Char
  | '/' :: '/' :: rest =>
    let isHostChar (c : Char) : Bool := c ≠ '/' && c ≠ '?' && c ≠ '#'
    (rest.takeWhile isHostChar, rest.dropWhile isHostChar)
  | cs => ([], cs)

/-- Takes an address apart. Blanks and controls before it and line breaks and tabs in it do not
count. -/
def readAddress (cs : List Char) : Except Fault Address := do
  let isDropped (c : Char) : Bool := c = '\t' || c = '\n' || c = '\r'
  let cs := (cs.dropWhile (·.toNat ≤ 0x20)).filter (!isDropped ·)
  let (host, rest) := splitHost (dropScheme cs)
  requireHost host
  let rest := rest.takeWhile (· ≠ '#')
  .ok ⟨rest.takeWhile (· ≠ '?'), (rest.dropWhile (· ≠ '?')).drop 1⟩

/-! ## Escapes -/

/-- The value of a hexadecimal digit. -/
def hexValue? (b : UInt8) : Option Nat :=
  let n := b.toNat
  if 48 ≤ n && n ≤ 57 then some (n - 48)
  else if 65 ≤ n && n ≤ 70 then some (n - 55)
  else if 97 ≤ n && n ≤ 102 then some (n - 87)
  else none

/-- The byte that a percent sign and two digits stand for. -/
def escaped? (mark first second : UInt8) : Option UInt8 :=
  if mark.toNat = 37 then
    match hexValue? first, hexValue? second with
    | some x, some y => some (UInt8.ofNat (16 * x + y))
    | _, _ => none
  else none

/-- Resolves the escapes among some bytes. A percent sign that two digits do not follow stands for
itself. -/
def unescapeBytes : List UInt8 → List UInt8
  | mark :: x :: y :: rest =>
    match escaped? mark x y with
    | some byte => byte :: unescapeBytes rest
    | none => mark :: unescapeBytes (x :: y :: rest)
  | bytes => bytes

/-- Resolves the escapes of a text. Text whose escapes are no UTF-8 is left as it is. -/
def unescape (cs : List Char) : String :=
  let escapedText := String.ofList cs
  let bytes := unescapeBytes escapedText.toUTF8.toList
  (String.fromUTF8? ⟨bytes.toArray⟩).getD escapedText

/-- The parameters of a query, in order; a plus sign stands for a space. -/
def parameters (query : List Char) : List (String × String) :=
  let plain (cs : List Char) : String := unescape (cs.map fun c => if c = '+' then ' ' else c)
  ((Text.pieces '&' query).filter (!·.isEmpty)).map fun field =>
    (plain (field.takeWhile (· ≠ '=')), plain ((field.dropWhile (· ≠ '=')).drop 1))

/-! ## Requests -/

/-- The query that is given for a plain request: what stands between the first two question marks,
the fragment not being told apart. -/
def plainQuery (address : List Char) : List Char :=
  match Text.pieces '?' address with
  | _ :: query :: _ => query
  | _ => []

/-- A request to an address. -/
def requestTo (method address : String) (isAuthenticated : Bool) :
    Except Fault App.Request := do
  let parts ← readAddress address.toList
  let given := if method.toUpper = "GET" then plainQuery address.toList else []
  let query := if given.isEmpty then parts.query else given
  .ok ⟨method, unescape parts.path, parameters query, isAuthenticated⟩

end TimedLock.Rehearsal

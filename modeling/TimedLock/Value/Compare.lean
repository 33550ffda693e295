import TimedLock.Number.Quantity
import TimedLock.Value.Basic

/-!
# Comparing values

Numbers are compared by what they stand for, so a whole number and a double are compared exactly;
a truth value counts as 0 or 1. Two values are the same when they are the same number or the same
structure of the same values. Dictionaries do not mind the order of their entries.
-/

namespace TimedLock.Value

open TimedLock.Number

/-- The quantity that a value is, if it is a number. -/
def quantity? : Value → Option Quantity
  | .bool b => some (.ofInt (if b then 1 else 0))
  | .int n => some (.ofInt n)
  | .float x => some (.ofFloat x)
  | _ => none

mutual

/-- Whether two values are the same. -/
def same (a b : Value) : Bool :=
  match a with
  | .null => b.isNull
  | .bool x => match b.quantity? with
    | some q => (Quantity.ofInt (if x then 1 else 0)).same q
    | none => false
  | .int n => match b.quantity? with
    | some q => (Quantity.ofInt n).same q
    | none => false
  | .float x => match b.quantity? with
    | some q => (Quantity.ofFloat x).same q
    | none => false
  | .text s => match b with
    | .text t => s = t
    | _ => false
  | .bytes xs => match b with
    | .bytes ys => xs = ys
    | _ => false
  | .list xs => match b with
    | .list ys => sameAll xs ys
    | _ => false
  | .tuple xs => match b with
    | .tuple ys => sameAll xs ys
    | _ => false
  | .dict xs => match b with
    | .dict ys => xs.length = ys.length && sameEntries xs ys
    | _ => false
  | .duration m => match b with
    | .duration n => m = n
    | _ => false
  | .task => false
  | .phase p => match b with
    | .phase q => p = q
    | _ => false

/-- Whether two lists hold the same values in order. -/
def sameAll (as bs : List Value) : Bool :=
  match as, bs with
  | [], [] => true
  | a :: as, b :: bs => same a b && sameAll as bs
  | _, _ => false

/-- Whether each entry of the first dictionary is one of the second. -/
def sameEntries (as bs : List (Value × Value)) : Bool :=
  match as with
  | [] => true
  | (k, v) :: rest => bs.any (fun e => same k e.1 && same v e.2) && sameEntries rest bs

end

/-- Puts an entry into a list of entries; a key that is there keeps its place. -/
def putEntry (entries : List (Value × Value)) (k v : Value) : List (Value × Value) :=
  if entries.any (k.same ·.1) then entries.map fun e => if k.same e.1 then (e.1, v) else e
  else entries ++ [(k, v)]

/-- The dictionary made by putting entries in one after the other. -/
def ofEntries (entries : List (Value × Value)) : Value :=
  .dict (entries.foldl (fun d e => putEntry d e.1 e.2) [])

/-- Whether a value is a certain text. -/
def isText (v : Value) (s : String) : Bool :=
  match v with
  | .text t => t = s
  | _ => false

theorem eq_text_of_isText {v : Value} {s : String} (h : v.isText s = true) : v = .text s := by
  cases v with
  | text t => exact congrArg Value.text (of_decide_eq_true h)
  | _ => cases h

end TimedLock.Value

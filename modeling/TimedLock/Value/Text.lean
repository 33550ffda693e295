import TimedLock.Number.Text
import TimedLock.Text.Duration
import TimedLock.Text.Quoted
import TimedLock.Value.Basic

/-!
# Values as text

A value is written in one of two ways. `display` is for messages and names: text stands for
itself. `literal` puts text between quotes, and is what the parts of a larger value are written
with.
-/

namespace TimedLock.Value

open TimedLock.Text TimedLock.Number

mutual

/-- A value as it is written inside another one. -/
def literal : Value → String
  | .null => "None"
  | .bool b => if b then "True" else "False"
  | .int n => toString n
  | .float x => writeFloat x
  | .text s => quoted s
  | .bytes data => quotedBytes data
  | .list items => "[" ++ literals items ++ "]"
  | .tuple items =>
    match items with
    | [v] => "(" ++ literal v ++ ",)"
    | vs => "(" ++ literals vs ++ ")"
  | .dict entries => "\x7b" ++ entryLiterals entries ++ "\x7d"
  | .duration micros => durationLiteral micros
  | .task => "<BoundTask>"
  | .phase p => "<ErrorType." ++ p.name ++ ": '" ++ p.name ++ "'>"

/-- Several values, with commas between them. -/
def literals : List Value → String
  | [] => ""
  | [v] => literal v
  | v :: rest => literal v ++ ", " ++ literals rest

/-- Entries of a dictionary, with commas between them. -/
def entryLiterals : List (Value × Value) → String
  | [] => ""
  | [(k, v)] => literal k ++ ": " ++ literal v
  | (k, v) :: rest => literal k ++ ": " ++ literal v ++ ", " ++ entryLiterals rest

end

/-- A value as it is written in a message. -/
def display : Value → String
  | .text s => s
  | .duration micros => durationText micros
  | .phase p => "ErrorType." ++ p.name
  | v => v.literal

@[simp]
theorem display_text (s : String) : (text s).display = s := rfl

end TimedLock.Value

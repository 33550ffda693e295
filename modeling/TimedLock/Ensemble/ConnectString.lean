import TimedLock.Problem
import TimedLock.Text.Blank
import TimedLock.Text.Integer
import TimedLock.Text.Split

/-!
# Connect strings

A connect string names the servers of an ensemble: hosts with or without a port, between commas,
and after the first slash a path that is no part of the servers. Blank items are skipped. What
follows the last colon of an item is its port.
-/

namespace TimedLock.Ensemble

/-- The address of a server. -/
structure Server where
  host : String
  port : Int
deriving DecidableEq, Repr

/-- The port of a server that is named without one. -/
def defaultPort : Int := 2181

/-- A server as it is shown in messages. -/
def Server.address (s : Server) : String := s!"{s.host}:{s.port}"

/-- Reads a port. -/
def readPort (cs : List Char) : Except Fault Int :=
  match Text.readInteger cs with
  | .ok n => .ok n
  | .error .malformed => .error (Problem.badPort (String.ofList cs)).fault
  | .error (.tooLong digits) => .error (Problem.portTooLong digits).fault

/-- Reads an item that is not blank. -/
def readServer (item : List Char) : Except Fault Server :=
  match Text.cutAtLast? ':' item with
  | none => .ok ⟨String.ofList item, defaultPort⟩
  | some (host, port) => (readPort port).map fun n => ⟨String.ofList host, n⟩

/-- The items of a connect string, trimmed, without the blank ones. -/
def items (cs : List Char) : List (List Char) :=
  ((Text.pieces ',' (cs.takeWhile (· ≠ '/'))).map Text.trim).filter (!·.isEmpty)

/-- The servers of a connect string in order. The first port that cannot be read decides. -/
def parse (cs : List Char) : Except Fault (List Server) := (items cs).mapM readServer

/-- The servers that a value names, if it is text. -/
def servers (v : Value) : Except Fault (List Server) :=
  match v with
  | .text s => parse s.toList
  | .bytes _ => .error Problem.bytesNotText.fault
  | v => .error (Problem.noSuchMember v.kindName "split").fault

end TimedLock.Ensemble

import Duplex.Number.Numeral
import Duplex.Number.Shortest
import Duplex.Text.Quoted

/-! # Data of configuration files

  What a configuration file can hold, and how an error speaks of it.
-/

namespace Duplex

/-- A datum of a configuration file. -/
inductive Datum where
  | null
  | bool (b : Bool)
  | int (n : Int)
  | float (x : Binary64)
  | text (s : String)
  | list (items : List Datum)
  | map (entries : List (String × Datum))

namespace Datum

/-- What a datum is, in the words of an error. -/
def describe : Datum → String
  | null => "null"
  | bool b => s!"boolean \x60{b}\x60"
  | int n => s!"integer \x60{n}\x60"
  | float x => "floating point \x60" ++ x.text ++ "\x60"
  | text s => "string " ++ Quoted.quote s
  | list _ => "sequence"
  | map _ => "map"

/-- The number with this text. -/
def ofNumber? (text : String) : Option Datum := do
  let numeral ← Numeral.ofText? text
  match numeral.integer? with
  | some n => return .int n
  | none => return .float (← numeral.toBinary64?)

/-- Entries in ascending order of their keys after one more, which replaces an equal one. -/
def insertEntry (entry : String × Datum) : List (String × Datum) → List (String × Datum)
  | [] => [entry]
  | head :: rest =>
    if entry.1 = head.1 then entry :: rest
    else if entry.1 < head.1 then entry :: head :: rest
    else head :: insertEntry entry rest

/-- A map of these entries. Its keys are in ascending order; of equal ones the last counts. -/
def ofEntries (entries : List (String × Datum)) : Datum :=
  .map (entries.foldl (fun sorted entry => insertEntry entry sorted) [])

end Datum

end Duplex

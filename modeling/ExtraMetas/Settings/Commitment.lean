import ExtraMetas.Text.Blank

/-!
# ExtraMetas.Settings.Commitment

How final an account state has to be: a node is asked for the latest state that is at least
**processed**, **confirmed** or **finalized**. A person may write a level with blanks around it and
in any letter case (`parse?`); a node takes the bare name only (`ofName?`).
-/

namespace ExtraMetas

/-- A level of finality. -/
inductive Commitment
  | processed
  | confirmed
  | finalized
deriving DecidableEq

namespace Commitment

/-- The name of a level. -/
def name : Commitment → String
  | processed => "processed"
  | confirmed => "confirmed"
  | finalized => "finalized"

/-- Every level, from the least final on. -/
def all : List Commitment :=
  [processed, confirmed, finalized]

/-- The level with exactly the name `s`. -/
def ofName? (s : String) : Option Commitment :=
  all.find? (·.name == s)

theorem ofName?_name (c : Commitment) : ofName? c.name = some c := by
  cases c <;> decide

end Commitment

namespace Text

/-- Lower case of the ASCII letters. No other letter has one of the letters of a cluster's or a
level's name as its lower case, so for finding these names no other case matters. -/
def foldCase (s : List Char) : List Char :=
  s.map Char.toLower

end Text

/-- The level that a text names, whatever its letter case and the blanks around it. -/
def Commitment.parse? (s : String) : Option Commitment :=
  ofName? (String.ofList (Text.foldCase (Text.trim s.toList)))

end ExtraMetas

import Vigil.Query.Lexer
import Vigil.Query.Parser

/-! # Queries

A query selects events: those of one class, or of any, of which a condition holds. It keeps its text, with
the blanks around it removed. -/

namespace Vigil

open Vigil.Text Vigil.Query

/-- A query; `head` is the class of events as it is written, missing from a bare condition. -/
structure Query where
  source : String
  head : Option String
  condition : Condition

namespace Query

/-- The head of queries on events of any class. -/
def anyClass : String := "any"

/-- The class of the events that a query selects from, if it is restricted to one. -/
def class? (q : Query) : Option String :=
  q.head.filter fun name => !equalIgnoringAsciiCase name anyClass

/-- The names of the fields that a query reads. -/
def fields (q : Query) : List String := q.condition.fields

/-- Whether an event is of the class that a query asks for. -/
def appliesTo (q : Query) (e : Event) : Bool :=
  match q.class? with
  | none => true
  | some expected =>
    match e.class? with
    | some actual => equalIgnoringAsciiCase actual expected
    | none => false

/-- Whether a query selects an event. -/
def selects (q : Query) (e : Event) : Bool := q.appliesTo e && q.condition.holds e

/-- The number of searches that are given up when an event is looked at. -/
def giveUps (q : Query) (e : Event) : Nat := if q.appliesTo e then q.condition.giveUps e else 0

/-- What a query amounts to, in one line. -/
def summary (q : Query) : String :=
  "Compiled query for '" ++ q.head.getD anyClass ++ "' events: " ++ q.condition.render

/-- Reads a query: a class, the word `where` and a condition. -/
def read? (text : String) : Except QueryError Query := do
  match ← tokens? text.toList with
  | [] => .error .empty
  | .identifier name :: .head :: rest =>
    if name.toList.contains '.' then .error (.missingHead name)
    else return ⟨String.ofList (trim text.toList), some name, ← condition? rest⟩
  | t :: _ => .error (.missingHead t.render)

/-- Reads a condition without a head. -/
def readCondition? (text : String) : Except QueryError Query := do
  match ← tokens? text.toList with
  | [] => .error .empty
  | tokens => return ⟨String.ofList (trim text.toList), none, ← condition? tokens⟩

end Query

end Vigil

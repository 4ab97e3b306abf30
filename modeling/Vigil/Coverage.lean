import Vigil.Analytic.Basic

/-! # Coverage of tactics and techniques

The analytics that detect a technique or a tactic, each identifier once, in the order in which they were
added. Techniques are known by their names without blanks around them and in capitals, tactics by their names
without blanks. Tables are sorted by name; the matrix has the techniques that come with a tactic. -/

namespace Vigil

open Vigil.Text

/-! ### Sorted tables -/

/-- Changes the entry of a name in a table that is sorted by name. -/
def updateSorted {α : Type} (name : String) (change : Option α → α) :
    List (String × α) → List (String × α)
  | [] => [(name, change none)]
  | (other, a) :: rest =>
    if name = other then (name, change (some a)) :: rest
    else if name < other then (name, change none) :: (other, a) :: rest
    else (other, a) :: updateSorted name change rest

/-- Adds a name to a sorted list. -/
def insertSorted (name : String) : List String → List String
  | [] => [name]
  | other :: rest =>
    if name = other then other :: rest
    else if name < other then name :: other :: rest
    else other :: insertSorted name rest

/-! ### Coverage -/

/-- The analytics for techniques and tactics, and the techniques for tactics. -/
structure Coverage where
  techniques : List (String × List Analytic) := []
  tactics : List (String × List Analytic) := []
  matrix : List (String × List String) := []

namespace Coverage

/-- The name by which a technique is known. -/
def techniqueName (s : String) : String := String.ofList ((trim s.toList).map asciiUpper)

/-- The name by which a tactic is known. -/
def tacticName (s : String) : String := String.ofList (trim s.toList)

/-- Adds an analytic to others, unless one of them has its identifier. -/
def addOnce (a : Analytic) (others : List Analytic) : List Analytic :=
  if others.any fun b => b.metadata.id = a.metadata.id then others else others ++ [a]

/-- Adds an analytic under a name. -/
def addUnder (a : Analytic) (table : List (String × List Analytic)) (name : String) :
    List (String × List Analytic) :=
  updateSorted name (fun others => addOnce a (others.getD [])) table

/-- Adds an analytic. -/
def add (c : Coverage) (a : Analytic) : Coverage :=
  let techniques := a.metadata.techniques.map techniqueName
  let tactics := a.metadata.tactics.map tacticName
  { techniques := techniques.foldl (addUnder a) c.techniques
    tactics := tactics.foldl (addUnder a) c.tactics
    matrix := tactics.foldl (fun matrix tactic =>
      updateSorted tactic (fun names =>
        techniques.foldl (fun names name => insertSorted name names) (names.getD [])) matrix)
      c.matrix }

/-- The coverage of analytics. -/
def ofList (analytics : List Analytic) : Coverage := analytics.foldl add {}

/-- The analytics that list a technique. -/
def technique (c : Coverage) (name : String) : List Analytic :=
  (c.techniques.lookup (techniqueName name)).getD []

/-- The analytics that list a tactic. -/
def tactic (c : Coverage) (name : String) : List Analytic :=
  (c.tactics.lookup (tacticName name)).getD []

/-- The number of analytics for every technique. -/
def summary (c : Coverage) : List (String × Nat) :=
  c.techniques.map fun (name, analytics) => (name, analytics.length)

end Coverage

end Vigil

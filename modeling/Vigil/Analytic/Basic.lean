import Vigil.Analytic.Uuid
import Vigil.Query.Basic
import Vigil.Yaml.Datum

/-! # Analytics

An analytic is a query with what there is to say about it: its identifier and name, and optionally the
systems it applies to, the tactics and techniques of attackers that it detects, and more. Fields that are not
known are kept as they are, in the order of their names. -/

namespace Vigil

open Vigil.Text

/-- How likely it is that what an analytic finds is no false alarm. -/
inductive Confidence
  | low
  | medium
  | high
deriving DecidableEq

namespace Confidence

/-- All degrees. -/
def all : List Confidence := [.low, .medium, .high]

/-- The name of a degree. -/
def name : Confidence → String
  | .low => "low"
  | .medium => "medium"
  | .high => "high"

/-- The degree with a name. -/
def ofName? (s : String) : Option Confidence := all.find? fun c => c.name == s

end Confidence

/-- What there is to say about an analytic. -/
structure Metadata where
  id : Uuid
  name : String
  description : Option String := none
  os : List String := []
  tactics : List String := []
  techniques : List String := []
  categories : List String := []
  confidence : Option Confidence := none
  contributors : List String := []
  references : List String := []
  createdDate : Option String := none
  updatedDate : Option String := none
deriving DecidableEq

/-- A query with what there is to say about it. -/
structure Analytic where
  metadata : Metadata
  query : Query
  customFields : List (String × Datum) := []

namespace Analytic

/-- Whether an analytic finds something in an event. -/
def detects (a : Analytic) (e : Event) : Bool := a.query.selects e

/-- The number of searches that are given up when an event is looked at. -/
def giveUps (a : Analytic) (e : Event) : Nat := a.query.giveUps e

/-- Whether an analytic lists a system, up to the case of letters. -/
def appliesTo (a : Analytic) (os : String) : Bool :=
  a.metadata.os.any fun name => equalIgnoringAsciiCase name os

end Analytic

end Vigil

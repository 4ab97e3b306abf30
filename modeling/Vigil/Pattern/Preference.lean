import Std.Data.HashSet
import Vigil.Pattern.Reach

/-! # Preferred matches

Where several matches begin at one place, an earlier alternative is preferred to a later one and a greedy
repetition to go on. `Node.ends` lists the places where a plain expression can end, the preferred one
first and each place once, with the groups that were matched on the way there. -/

namespace Vigil.Pattern

/-- A place in a text and the groups matched on the way there, the latest first: number, start and end. -/
structure Spot where
  place : Nat
  groups : List (Nat × Nat × Nat) := []

/-- A search in progress: what has been visited, the places already listed, and the list, its end
first. -/
structure Search where
  visited : Std.HashSet (Nat × Nat) := {}
  listed : Std.HashSet Nat := {}
  spots : List Spot := []

namespace Search

/-- Lists a place that is not listed yet. -/
def list (spot : Spot) (search : Search) : Search :=
  if search.listed.contains spot.place then search
  else { search with listed := search.listed.insert spot.place, spots := spot :: search.spots }

/-- Notes a visit; `none` if it is not the first. -/
def visit (stage place : Nat) (search : Search) : Option Search :=
  if search.visited.contains (stage, place) then none
  else some { search with visited := search.visited.insert (stage, place) }

/-- The list, its start first. -/
def result (search : Search) : List Spot := search.spots.reverse

/-- Lists the places after one or more rounds of `body`. The fuel is more than the number of places. -/
def rounds (body : Spot → List Spot) (greedy : Bool) : Nat → Spot → Search → Search
  | 0, _, search => search
  | fuel + 1, spot, search =>
    match search.visit 0 spot.place with
    | none => search
    | some search =>
      (body spot).foldl (fun search spot =>
        match search.visit 1 spot.place with
        | none => search
        | some search =>
          if greedy then (rounds body greedy fuel spot search).list spot
          else rounds body greedy fuel spot (search.list spot)) search

/-- Lists the places after up to a number of rounds of `body`. -/
def roundsUpTo (body : Spot → List Spot) (greedy : Bool) : Nat → Spot → Search → Search
  | 0, spot, search => search.list spot
  | n + 1, spot, search =>
    match search.visit n spot.place with
    | none => search
    | some search =>
      if greedy then
        ((body spot).foldl (fun search spot => roundsUpTo body greedy n spot search) search).list spot
      else (body spot).foldl (fun search spot => roundsUpTo body greedy n spot search)
        (search.list spot)

/-- Lists several places. -/
def listAll (spots : List Spot) (search : Search) : Search :=
  spots.foldl (fun search spot => list spot search) search

/-- Lists the places that `next` leads to from each spot. -/
def continued (spots : List Spot) (next : Spot → List Spot) : List Spot :=
  match spots with
  | [spot] => next spot
  | _ => (spots.foldl (fun search spot => listAll (next spot) search) {}).result

end Search

namespace Node

/-- Repeats a step a number of times. -/
def repeated (body : Spot → List Spot) : Nat → Spot → List Spot
  | 0, spot => [spot]
  | n + 1, spot => Search.continued (body spot) (repeated body n)

/-- The places where an expression can end that begins at a spot. -/
def ends (text : Array Char) : Node → Spot → List Spot
  | .empty, spot => [spot]
  | .set s, spot =>
    match text[spot.place]? with
    | some c => if s.contains c then [{ spot with place := spot.place + 1 }] else []
    | none => []
  | .assertion a, spot =>
    if a.holdsAt text spot.place then [spot] else []
  | .sequence a b, spot => Search.continued (ends text a spot) (ends text b)
  | .choice a b, spot =>
    match ends text a spot with
    | [] => ends text b spot
    | spots => (Search.listAll (spots ++ ends text b spot) {}).result
  | .group number a, spot =>
    (ends text a spot).map fun last =>
      { last with groups := (number, spot.place, last.place) :: last.groups }
  | .repetition a 0 none greedy, spot =>
    let once (search : Search) := search.rounds (ends text a) greedy (text.size + 2) spot
    (if greedy then (once {}).list spot else once (Search.list spot {})).result
  | .repetition a (least + 1) none greedy, spot =>
    Search.continued (repeated (ends text a) least spot) fun spot =>
      (Search.rounds (ends text a) greedy (text.size + 2) spot {}).result
  | .repetition a least (some most) greedy, spot =>
    Search.continued (repeated (ends text a) least spot) fun spot =>
      (Search.roundsUpTo (ends text a) greedy (most - least) spot {}).result

end Node

end Vigil.Pattern

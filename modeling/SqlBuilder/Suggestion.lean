/-!
The known name nearest to one that is not known.
-/

namespace SqlBuilder.Suggestion

/-- The next row of edit distances: `corner` is the distance one row up and one column back,
`left` the one just found in this row, `above` what is left of the row before. -/
def nextRow (c : Char) : (corner left : Nat) → (target : List Char) → (above : List Nat) → List Nat
  | corner, left, t :: target, up :: above =>
    let here := min (min (up + 1) (left + 1)) (if c = t then corner else corner + 1)
    here :: nextRow c up here target above
  | _, _, _, _ => []

/-- The distances from the characters read so far to each beginning of the target. -/
def step (target : List Char) (row : List Nat) (c : Char) : List Nat :=
  match row with
  | corner :: above => (corner + 1) :: nextRow c corner (corner + 1) target above
  | [] => []

/-- How many characters have to be put in, taken out or changed to make one text the other. -/
def distance (source target : List Char) : Nat :=
  (source.foldl (step target) (List.range (target.length + 1))).getLast?.getD 0

/-- How far a suggestion may be from a name, by its size in UTF-8. -/
def reach (name : String) : Nat :=
  if name.utf8ByteSize ≤ 2 then 0 else if name.utf8ByteSize ≤ 5 then 2 else 3

/-- The first of the candidates with the least distance. -/
def nearest? (name : String) : List String → Option (Nat × String)
  | [] => none
  | candidate :: rest =>
    let d := distance name.toList candidate.toList
    match nearest? name rest with
    | some (least, other) => if least < d then some (least, other) else some (d, candidate)
    | none => some (d, candidate)

/-- The nearest candidate, if it is within reach. -/
def suggest? (name : String) (candidates : List String) : Option String :=
  match nearest? name candidates with
  | some (d, candidate) => if d ≤ reach name then some candidate else none
  | none => none

end SqlBuilder.Suggestion

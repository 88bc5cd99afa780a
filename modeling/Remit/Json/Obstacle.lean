import Remit.Json.Writer

/-! What keeps a document from being sent. The numbers are looked at first, in the order of the
document: an integer must have a written form and any other number must be finite. Then the
compact form must be free of halves of surrogate pairs, as its encoding has none for them. -/

namespace Remit.Json

inductive Obstacle where
  | tooLong
  | notFinite
  /-- a half that stands alone at a position of the compact form -/
  | half (point position : Nat)
  /-- a run of halves from one position to another -/
  | halves (first last : Nat)
  deriving DecidableEq, Repr

def Obstacle.message : Obstacle → String
  | .tooLong => Text.TooLong.tooLong.message
  | .notFinite => "Out of range float values are not JSON compliant"
  | .half point position =>
    "'utf-8' codec can't encode character '" ++ String.ofList (unitEscape point) ++
      "' in position " ++ toString position ++ ": surrogates not allowed"
  | .halves first last =>
    "'utf-8' codec can't encode characters in position " ++ toString first ++ "-" ++
      toString last ++ ": surrogates not allowed"

mutual

def numberObstacle? : Json → Option Obstacle
  | .int n => if Text.Writable n then none else some .tooLong
  | .real x => if x.isFinite then none else some .notFinite
  | .arr items => itemsObstacle? items
  | .obj fields => fieldsObstacle? fields
  | _ => none

def itemsObstacle? : List Json → Option Obstacle
  | [] => none
  | j :: js => (numberObstacle? j).or (itemsObstacle? js)

def fieldsObstacle? : List (String × Json) → Option Obstacle
  | [] => none
  | (_, j) :: rest => (numberObstacle? j).or (fieldsObstacle? rest)

end

def halfObstacle? (points : List Nat) : Option Obstacle :=
  let first := (points.takeWhile fun n => !Text.isHalf n).length
  match (points.drop first).takeWhile Text.isHalf with
  | [] => none
  | [n] => some (.half n first)
  | run => some (.halves first (first + run.length - 1))

def obstacle? (j : Json) : Option Obstacle :=
  (numberObstacle? j).or (halfObstacle? (Text.points j.compact.toList))

end Remit.Json

import Routewright.Domain.Label

/-!
# Domain names

A domain name is a row of labels between dots. It may end in a dot. Characters are given by their
code points.
-/

namespace Routewright.Domain

/-- The dots between labels: that of ASCII and those of scripts that write it in another way. -/
def dots : List Nat :=
  ['.'.toNat, 0x3002, 0xFF0E, 0xFF61]

/-- The words between the dots of a name. -/
def words : List Nat → List (List Nat)
  | [] => [[]]
  | n :: rest =>
    match words rest with
    | [] => [[n]]
    | word :: more => if dots.contains n then [] :: word :: more else (n :: word) :: more

/-- The labels of a name, without the dot at its end. -/
def labels (name : List Nat) : List (List Nat) :=
  let all := words name
  if all.getLast? = some [] then all.dropLast else all

/-- How many characters a row of labels takes with the dots between them. -/
def nameLength (labels : List (List Nat)) : Nat :=
  labels.foldl (fun n label => n + (label.length + 1)) 0 - 1

/-- The labels of a name in lower case, each in ASCII. -/
def encoded (name : List Nat) : Except LabelFault (List (List Nat)) := do
  if name.isEmpty || longestName < name.length then throw .malformed
  let written ← (labels name).mapM encodedLabel
  if longestName ≤ nameLength written then throw .malformed
  return written

/-- The labels that a name in ASCII and in lower case stands for. -/
def decoded (name : List Nat) : Except LabelFault (List (List Nat)) := do
  if name.isEmpty || longestName < name.length then throw .malformed
  (labels name).mapM decodedLabel

end Routewright.Domain

/-!
# Splitting

Lists are cut at every occurrence of a separator, or at its first one.  The
pieces of `splitOn`, joined again by the separator, are the list.
-/

namespace PatronGateway
namespace Text

variable {α : Type} [DecidableEq α]

/-- The pieces of a list between the occurrences of a separator. -/
def splitOn (separator : α) : List α → List (List α)
  | [] => [[]]
  | x :: rest =>
    if x = separator then
      [] :: splitOn separator rest
    else
      match splitOn separator rest with
      | [] => [[x]]
      | piece :: pieces => (x :: piece) :: pieces

/-- Cuts a list at the first occurrence of a separator, if there is one. -/
def splitFirst? (separator : α) : List α → Option (List α × List α)
  | [] => none
  | x :: rest =>
    if x = separator then some ([], rest)
    else (splitFirst? separator rest).map fun p => (x :: p.1, p.2)

/-- Cuts a list at the last occurrence of a separator, if there is one. -/
def splitLast? (separator : α) (xs : List α) : Option (List α × List α) :=
  (splitFirst? separator xs.reverse).map fun p => (p.2.reverse, p.1.reverse)

/-- Drops the elements at the end that satisfy a condition. -/
def dropTrailing (p : α → Bool) (xs : List α) : List α :=
  (xs.reverse.dropWhile p).reverse

/-- Takes a given lead away from the front of a list, if it stands there. -/
def dropLead? : List α → List α → Option (List α)
  | [], xs => some xs
  | _ :: _, [] => none
  | a :: lead, x :: xs => if a = x then dropLead? lead xs else none

end Text
end PatronGateway

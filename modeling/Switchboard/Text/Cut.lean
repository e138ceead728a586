namespace Switchboard.Text

/-- What stands before and after the first `sep`. -/
def cutChars (sep : Char) : List Char → Option (List Char × List Char)
  | [] => none
  | c :: cs =>
    if c = sep then some ([], cs)
    else (cutChars sep cs).map fun (a, b) => (c :: a, b)

/-- What stands before and after the first pair of `sep`. -/
def cutPair (sep : Char) : List Char → Option (List Char × List Char)
  | [] => none
  | [_] => none
  | c :: d :: cs =>
    if c = sep ∧ d = sep then some ([], cs)
    else (cutPair sep (d :: cs)).map fun (a, b) => (c :: a, b)

/-- What stands between pairs of `sep`, the pairs being found from the left. -/
def piecesOfPairs (sep : Char) : List Char → List (List Char)
  | [] => [[]]
  | [c] => [[c]]
  | c :: d :: cs =>
    if c = sep ∧ d = sep then [] :: piecesOfPairs sep cs
    else match piecesOfPairs sep (d :: cs) with
      | [] => [[c]]
      | p :: ps => (c :: p) :: ps

/-- What stands between the occurrences of `sep`; a text without `sep` is one piece. -/
def split (sep : Char) (s : String) : List String :=
  (s.toList.splitOn sep).map String.ofList

def cut? (sep : Char) (s : String) : Option (String × String) :=
  (cutChars sep s.toList).map fun (a, b) => (String.ofList a, String.ofList b)

/-- What follows `lead`, if the text starts with it. -/
def after? (lead s : String) : Option String :=
  (lead.toList.isPrefixOf? s.toList).map String.ofList

/-- The non-empty pieces between the occurrences of `sep`. -/
def words (sep : Char) (s : String) : List String :=
  (split sep s).filter (· ≠ "")

/-- `texts` with `sep` between neighbours. -/
def join (sep : String) (texts : List String) : String :=
  sep.intercalate texts

end Switchboard.Text

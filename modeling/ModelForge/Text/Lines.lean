/-!
Text as lines. A line feed ends a line, together with a carriage return before it; a last line
need not be ended. Joining puts one line feed between lines and none behind the last.
-/

namespace ModelForge.Text

/-- The pieces that line feeds end, and what follows the last line feed. -/
def breakAtFeeds : List Char → List (List Char) × List Char
  | [] => ([], [])
  | c :: rest =>
    let (done, last) := breakAtFeeds rest
    if c = '\n' then ([] :: done, last)
    else
      match done with
      | [] => ([], c :: last)
      | l :: more => ((c :: l) :: more, last)

/-- A line without the carriage return at its end. -/
def dropReturn (l : List Char) : List Char :=
  if l.getLast? = some '\r' then l.dropLast else l

/-- The lines of a text; a carriage return at the very end of the text stays. -/
def lines (s : List Char) : List (List Char) :=
  let (done, last) := breakAtFeeds s
  done.map dropReturn ++ if last = [] then [] else [last]

def unlines : List (List Char) → List Char
  | [] => []
  | [l] => l
  | l :: m :: more => l ++ '\n' :: unlines (m :: more)

end ModelForge.Text

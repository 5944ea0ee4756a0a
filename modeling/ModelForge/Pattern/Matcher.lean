import ModelForge.Pattern.Machine
import ModelForge.Pattern.Parser
import ModelForge.Pattern.Reach
import ModelForge.Pattern.Weight
/-!
Patterns made ready for searches: a hard pattern becomes a program, and any other is looked for as
it is.
-/

namespace ModelForge

inductive Matcher
  | plain (a : Pattern)
  | program (p : Pattern.Program)

namespace Matcher

/-- Reads a pattern; none for a text that is not one, and for a pattern that takes too much space. -/
def ofText? (text : String) : Option Matcher := do
  let parsed ← Pattern.parse? text
  if parsed.pattern.isHard parsed.referred then
    return .program (← Pattern.Program.ofPattern? parsed.pattern parsed.referred parsed.groups)
  else if parsed.pattern.fits then some (.plain parsed.pattern)
  else none

/-- Looks for the pattern in a text. -/
def search (m : Matcher) (text : String) : Pattern.Outcome :=
  let chars := text.toList.toArray
  match m with
  | plain a => if a.occurs chars then .found else .absent
  | program p => p.search chars

/-- Whether the pattern is found; a search that is given up finds nothing. -/
def found (m : Matcher) (text : String) : Bool := m.search text == .found

end Matcher

end ModelForge

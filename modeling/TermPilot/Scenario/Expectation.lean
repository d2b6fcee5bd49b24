import TermPilot.Pattern.Match
import TermPilot.Pattern.Read
import TermPilot.Scenario.Basic

/-!
# Expectations

When a screen is what a scenario expects, and how that is told.
-/

namespace TermPilot.Expectation

/-- Whether a pattern in its written form matches somewhere in a text. -/
def patternOccurs (written t : Text) (depth : Nat := Pattern.usualDepth) : Except Fault Bool :=
  match Pattern.read written depth with
  | .ok pattern => .ok (pattern.occursIn t)
  | .error error => .error (.ofPattern error)

/-- Whether a screen is as expected. The pattern is looked at only if the text is there. -/
def isMetBy (e : Expectation) (clean : Text) (depth : Nat := Pattern.usualDepth) :
    Except Fault Bool :=
  if e.contains.all (Text.occursIn · clean) then
    match e.regex with
    | some written => patternOccurs written clean depth
    | none => .ok true
  else .ok false

/-- What is expected, in words. -/
def describe (e : Expectation) : Text :=
  let contained := e.contains.toList.map fun t => "contains ".toList ++ Text.quoted t
  let matched := e.regex.toList.map fun t => "matches /".toList ++ t ++ ['/']
  Text.join " and ".toList (contained ++ matched)

end TermPilot.Expectation

import TermPilot.Pattern.Basic
import TermPilot.Text.Blank
import TermPilot.Text.Digit
import TermPilot.Text.Letter

/-!
# Matching patterns

A pattern is tried at a place of the text with what is to follow it as a continuation. Choices are
tried in order, and the first that lets the continuation succeed is taken.
-/

namespace TermPilot.Pattern

/-- A place in the text, and the texts of the groups up to there. -/
structure Position where
  /-- The character before the place. -/
  before : Option Char
  /-- The text after the place. -/
  after : Text
  /-- The texts of groups by number, the latest first. -/
  groups : List (Nat × Text)

/-- What is tried after a pattern. -/
abbrev Continuation := Position → Option Position

/-- Whether a character belongs to a class. -/
def inClass : CharClass → Char → Bool
  | .digit, c => Text.isDecimal c
  | .word, c => Text.isWordChar c
  | .blank, c => Text.isBlank c

/-- Whether a character is in a part of a set. -/
def inMember (c : Char) : SetMember → Bool
  | .range first last => first ≤ c && c ≤ last
  | .ofClass class_ negated => inClass class_ c != negated

/-- Whether a place has a word character on exactly one side. -/
def atWordEdge (p : Position) : Bool :=
  (p.before.any Text.isWordChar) != (p.after.head?.any Text.isWordChar)

/-- Whether a position is at a place. The empty text has no place within or between words. -/
def atPlace (p : Position) : Place → Bool
  | .lineStart => p.before.all (· = '\n')
  | .lineEnd => p.after.head?.all (· = '\n')
  | .textStart => p.before.isNone
  | .textEnd => p.after.isEmpty
  | .wordEdge => atWordEdge p
  | .noWordEdge => !atWordEdge p && (p.before.isSome || !p.after.isEmpty)

/-- Goes over one character that satisfies a condition. -/
def step (accept : Char → Bool) (p : Position) (next : Continuation) : Option Position :=
  match p.after with
  | [] => none
  | c :: rest => if accept c then next { p with before := some c, after := rest } else none

/-- Goes over a text that is there once more. -/
def again (p : Position) (next : Continuation) : Text → Option Position
  | [] => next p
  | c :: rest => match p.after with
    | [] => none
    | d :: after =>
      if c = d then again { p with before := some d, after := after } next rest else none

/-- Repeats a matcher: `least` more times at least and `most` more times at most. Beyond the least
number, a repetition of the empty text is the last one. Every amount of `fuel` above the number of
repetitions that fit into the text serves. -/
def repeatWith (body : Position → Continuation → Option Position) (greed : Greed)
    (next : Continuation) : (fuel least : Nat) → (most : Option Nat) → Position → Option Position
  | 0, _, _, _ => none
  | fuel + 1, least, most, p =>
    let further : Unit → Option Position := fun _ =>
      if most = some 0 then none
      else body p fun q =>
        if least = 0 ∧ q.after.length = p.after.length then next q
        else repeatWith body greed next fuel (least - 1) (most.map (· - 1)) q
    if least > 0 then further ()
    else match greed with
      | .lazy => match next p with
        | some q => some q
        | none => further ()
      | _ => match further () with
        | some q => some q
        | none => next p

/-- Tries a pattern at a position, followed by `next`. -/
def tryAt : Pattern → Position → Continuation → Option Position
  | .empty, p, next => next p
  | .char c, p, next => step (· = c) p next
  | .anyChar, p, next => step (· ≠ '\n') p next
  | .set members negated, p, next => step (fun c => members.any (inMember c) != negated) p next
  | .place where_, p, next => if atPlace p where_ then next p else none
  | .seq first second, p, next => tryAt first p fun q => tryAt second q next
  | .alt first second, p, next => match tryAt first p next with
    | some q => some q
    | none => tryAt second p next
  | .group number body, p, next => tryAt body p fun q =>
    next { q with
      groups := (number, p.after.take (p.after.length - q.after.length)) :: q.groups }
  | .backref number, p, next => match p.groups.find? fun (n, _) => n = number with
    | some (_, t) => again p next t
    | none => none
  | .rep body least most greed, p, next =>
    let fuel := p.after.length + least + 2
    match greed with
    | .possessive => (repeatWith (tryAt body) .greedy some fuel least most p).bind next
    | _ => repeatWith (tryAt body) greed next fuel least most p

/-- Whether a pattern matches somewhere in a text, of which `before` is the character in front. -/
def searchFrom (pattern : Pattern) (before : Option Char) (t : Text) : Bool :=
  (tryAt pattern ⟨before, t, []⟩ some).isSome ||
    match t with
    | [] => false
    | c :: rest => searchFrom pattern (some c) rest

/-- Whether a pattern matches somewhere in a text. -/
def occursIn (pattern : Pattern) (t : Text) : Bool := searchFrom pattern none t

end TermPilot.Pattern

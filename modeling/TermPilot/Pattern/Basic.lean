import TermPilot.Text.Basic

/-!
# Patterns

Scenarios describe expected text by patterns: characters and classes of characters, places such as
the start of a line, alternatives, repetitions, groups, and references back to groups.
-/

namespace TermPilot

/-- A class of characters. -/
inductive CharClass where
  /-- The decimal digits of all scripts. -/
  | digit
  /-- The characters of words. -/
  | word
  /-- The blanks. -/
  | blank
deriving Repr, DecidableEq

/-- A member of a set of characters. -/
inductive SetMember where
  /-- The characters from the first to the last. -/
  | range (first last : Char)
  /-- The characters of a class, or those outside of it. -/
  | ofClass (class_ : CharClass) (negated : Bool)
deriving Repr, DecidableEq

/-- A place between two characters. -/
inductive Place where
  /-- The start of a line. -/
  | lineStart
  /-- The end of a line. -/
  | lineEnd
  /-- The start of the text. -/
  | textStart
  /-- The end of the text. -/
  | textEnd
  /-- The start or the end of a word. -/
  | wordEdge
  /-- Neither the start nor the end of a word. -/
  | noWordEdge
deriving Repr, DecidableEq

/-- How a repetition chooses its length. -/
inductive Greed where
  /-- As long as possible. -/
  | greedy
  /-- As short as possible. -/
  | lazy
  /-- As long as possible, whatever follows. -/
  | possessive
deriving Repr, DecidableEq

/-- A pattern. -/
inductive Pattern where
  /-- The empty text. -/
  | empty
  /-- One character. -/
  | char (c : Char)
  /-- Any character but a line feed. -/
  | anyChar
  /-- A character in the set, or outside of it. -/
  | set (members : List SetMember) (negated : Bool)
  /-- A place. -/
  | place (place : Place)
  /-- One pattern and then another. -/
  | seq (first second : Pattern)
  /-- One pattern or else another. -/
  | alt (first second : Pattern)
  /-- A pattern whose text is kept under a number. -/
  | group (number : Nat) (body : Pattern)
  /-- The text of a group once more. -/
  | backref (number : Nat)
  /-- A pattern a number of times. -/
  | rep (body : Pattern) (least : Nat) (most : Option Nat) (greed : Greed)
deriving Repr, DecidableEq

/-- Why a text is no pattern. -/
inductive PatternError where
  /-- It is not written like one. -/
  | malformed
  /-- It repeats something too often. -/
  | countTooGreat
  /-- A number of repetitions has too many digits. -/
  | numeralTooLong (digits : Nat)
  /-- Its groups are nested too deeply. -/
  | tooDeep
deriving Repr, DecidableEq

end TermPilot

import TermPilot.Terminal.Sequence

/-!
# Tokens of a screen line

A coarser cut of a line than its escape sequences: runs of text, and escapes that reach from an
escape character through the next ASCII letter or tilde. The raw texts of the tokens make up the
line.
-/

namespace TermPilot.Screen

open Terminal

/-- A piece of a line. -/
inductive Token where
  /-- A run of characters without an escape character. -/
  | text (text : Text)
  /-- An escape character and what follows it through the next letter or tilde. -/
  | escape (raw : Text)
deriving Repr, DecidableEq

/-- The characters of a token. -/
def Token.raw : Token → Text
  | .text t => t
  | .escape raw => raw

/-- The characters of a token that are shown. -/
def Token.shown : Token → Text
  | .text t => t
  | .escape _ => []

/-- Whether `c` ends an escape. -/
def endsEscape (c : Char) : Bool := c.isAlpha || c = '~'

mutual
/-- The tokens of a line. -/
def tokens : Text → List Token
  | [] => []
  | c :: rest =>
    if c = esc then
      let (body, later) := escapeBody rest
      .escape (c :: body) :: later
    else match tokens rest with
      | .text t :: later => .text (c :: t) :: later
      | later => .text [c] :: later

/-- The rest of an escape after its escape character, and the tokens that follow it. -/
def escapeBody : Text → Text × List Token
  | [] => ([], [])
  | c :: rest =>
    if endsEscape c then ([c], tokens rest)
    else
      let (body, later) := escapeBody rest
      (c :: body, later)
end

end TermPilot.Screen

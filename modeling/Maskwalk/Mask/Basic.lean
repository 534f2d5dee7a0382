import Maskwalk.Path.Basic
import Maskwalk.Text.Letter

/-!
# Masks

A mask is a path in which stars stand for text that is not known. One star stands for any part of
a name, and so for no slash; two stars stand for any part of a path, over any number of segments,
but not for the end of a line. Everything else stands for itself.

A mask is cut into tokens from left to right, two stars before one, so that three stars are two
and one. Matching is a recursion on the tokens: a literal has to stand at the start of what is
left, and a star is tried against every part at the start of what is left that it can stand for,
the empty one first.

## Main definitions

* `Mask.Token`: a star, two stars, or the literal text between stars.
* `Mask.tokens`: the tokens of a mask.
* `Mask.matchesTokens`: whether tokens match a whole path.
* `Mask`: a mask made ready for matching.
* `Mask.fits`: whether a mask matches a path.
-/

namespace Maskwalk

/-- What a mask is made of: `anything` is two stars, `part` one star. -/
inductive Mask.Token where
  | anything
  | part
  | literal (run : Text)
  deriving DecidableEq, Repr

/-- A mask made ready for matching. -/
structure Mask where
  tokens : List Mask.Token
  ignoreCase : Bool
  deriving DecidableEq, Repr

namespace Mask

/-- One more literal character in front of tokens. -/
def withLiteral (c : Char) : List Token → List Token
  | .literal run :: more => .literal (c :: run) :: more
  | tokens => .literal [c] :: tokens

/-- The tokens of a mask. -/
def tokensOf : Text → List Token
  | [] => []
  | '*' :: '*' :: rest => .anything :: tokensOf rest
  | c :: rest => if c = '*' then .part :: tokensOf rest else withLiteral c (tokensOf rest)

/-- Whether some split of a text has a first part of allowed characters only and a second part
    that is accepted. -/
def someSplit (allowed : Char → Bool) (accepts : Text → Bool) : Text → Bool
  | [] => accepts []
  | c :: rest => accepts (c :: rest) || (allowed c && someSplit allowed accepts rest)

/-- What is left of a text behind a literal at its start. -/
def afterLiteral (same : Char → Char → Bool) : Text → Text → Option Text
  | [], t => some t
  | _ :: _, [] => none
  | a :: run, c :: t => if same a c then afterLiteral same run t else none

/-- Whether tokens match a whole text. -/
def matchesTokens (same : Char → Char → Bool) : List Token → Text → Bool
  | [], t => t.isEmpty
  | .literal run :: more, t =>
    match afterLiteral same run t with
    | some rest => matchesTokens same more rest
    | none => false
  | .part :: more, t => someSplit (· ≠ '/') (matchesTokens same more) t
  | .anything :: more, t => someSplit (· ≠ '\n') (matchesTokens same more) t

/-- A mask made ready for matching. -/
def compile (mask : Text) (ignoreCase : Bool) : Mask := ⟨tokensOf mask, ignoreCase⟩

/-- Whether a mask matches a path. -/
def fits (m : Mask) (p : Path) : Bool :=
  matchesTokens (Text.sameLetter m.ignoreCase) m.tokens p

/-- Whether a mask reaches below the directory it starts at: whether it holds two stars. -/
def isDeep (mask : Text) : Bool := Text.occursIn ['*', '*'] mask

/-- The directory at which a mask starts: that of the part in front of its first star. The
    current directory is given as the empty path. -/
def start (mask : Text) : Path :=
  let dir := Path.directory (mask.takeWhile (· ≠ '*'))
  if dir = Path.here then [] else dir

end Mask

end Maskwalk

import Maskwalk.Path.Basic

/-!
# The normal form of a path

A normal path has forward slashes only, one between neighbouring segments and none at the end, no
segment `.`, and no segment `..` that could be taken away together with the segment in front of
it. A `..` stays where that is not so: at the start of a relative path, behind another `..`, and
behind a segment with a star, since a star stands for names that are not known. At a root there is
nothing to go up to, and a `..` is dropped.

A path is taken apart into its root and its segments, the segments are folded over a stack, and
the two are written down again. Two slashes at the start are a root of their own, that of a share.

## Main definitions

* `Path.Root`: where a path starts.
* `Path.split`: the root of a path and its segments.
* `Path.push`: one more segment on the stack of those read, last one first.
* `Path.render`: the text of a root and segments.
* `Path.normalize`: the normal form.
-/

namespace Maskwalk

namespace Path

/-- Where a path starts: at the current directory, at the root, or at the root of shares. -/
inductive Root where
  | relative
  | rooted
  | share
  deriving DecidableEq, Repr

/-- The text of a root. -/
def Root.text : Root → Text
  | .relative => []
  | .rooted => ['/']
  | .share => ['/', '/']

/-- A backslash as a slash, all else as it is. -/
def forward (c : Char) : Char := if c = '\\' then '/' else c

/-- The root of a path with forward slashes, and what follows it. -/
def rootOf : Path → Root × Text
  | '/' :: '/' :: rest => (.share, rest)
  | '/' :: rest => (.rooted, rest)
  | rest => (.relative, rest)

/-- The root and the segments of a path, empty segments included. -/
def split (p : Path) : Root × List Text :=
  let (root, rest) := rootOf (p.map forward)
  (root, rest.pieces isSlash)

/-- The segment of the current directory. -/
def dot : Text := ['.']

/-- The segment of the directory above. -/
def dotDot : Text := ['.', '.']

/-- Whether a `..` behind a segment takes it away. -/
def yields (segment : Text) : Bool := segment ≠ dotDot && !segment.elem '*'

/-- One more segment on the stack of those read so far, the last one first. -/
def push (root : Root) (stack : List Text) (segment : Text) : List Text :=
  if segment = [] ∨ segment = dot then stack
  else if segment = dotDot then
    match stack with
    | [] => if root = .relative then [segment] else []
    | top :: below => if yields top then below else segment :: stack
  else segment :: stack

/-- Segments with those that cancel each other taken away. -/
def fold (root : Root) (segments : List Text) : List Text :=
  (segments.foldl (push root) []).reverse

/-- The text of a root and segments. Where there is neither, it is the current directory. -/
def render (root : Root) (segments : List Text) : Path :=
  match root.text ++ Text.joined ['/'] segments with
  | [] => here
  | p => p

/-- The normal form of a path. The empty path stays empty. -/
def normalize (p : Path) : Path :=
  if p = [] then []
  else
    let (root, segments) := split p
    render root (fold root segments)

end Path

end Maskwalk

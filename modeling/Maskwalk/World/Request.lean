import Maskwalk.Path.Normal
import Maskwalk.World.Failure

/-!
# Requests to the world

All that the library wants from its surroundings are single questions and single steps: list one
directory, look at one path, make or remove one entry, read one file, run one command. Each is a
request with a type of replies, and a world is a state that answers every request. Larger
operations are built of requests and know nothing of what stands behind them, be it a table of
paths, a tree with links, or the disk.

Paths reach a world in their normal form: `settled` answers a request by putting the normal form
in the place of its path. Two requests are about files that are named by the user and not by this
library, the configuration files; they pass as they are.

## Main definitions

* `Request`, `Request.Reply`: the requests and the types of their replies.
* `World`: states that answer requests.
* `Request.settled`: the reply to a request with its path in normal form.
-/

namespace Maskwalk

/-- An entry of a directory, by name and kind. Something that is neither a file nor a directory
    can be an entry as well. -/
structure Entry where
  name : Text
  isFile : Bool
  isDir : Bool
  deriving DecidableEq, Repr

/-- What is at a path, links followed. -/
inductive Stat where
  | directory
  | file (size : Nat)
  | special
  deriving DecidableEq, Repr

/-- A request to the world. `depth` asks for a bound on the length of a descent through directories
    that does not go in circles. -/
inductive Request where
  | listDir (path : Path)
  | isFile (path : Path)
  | isDir (path : Path)
  | mkdir (path : Path)
  | rmdir (path : Path)
  | remove (path : Path)
  | stat (path : Path)
  | readText (path : Path)
  | identifier (name : Option Text)
  | hasWideWords
  | variable (name : Text)
  | executable
  | outputOf (command : Text)
  | execute (command : Text)
  | isThere (path : Path)
  | readConfig (path : Path)
  | workingDir
  | depth
  deriving DecidableEq, Repr

/-- The replies to a request. -/
abbrev Request.Reply : Request → Type
  | .listDir _ => Except Failure (List Entry)
  | .isFile _ | .isDir _ => Bool
  | .mkdir _ | .rmdir _ | .remove _ => Except Failure Unit
  | .stat _ => Except Failure Stat
  | .readText _ => Except Failure Text
  | .identifier _ => Text
  | .hasWideWords => Bool
  | .variable _ => Option Text
  | .executable => Path
  | .outputOf _ => Except Failure Text
  | .execute _ => Except Failure Int
  | .isThere _ => Except Failure Bool
  | .readConfig _ => Except Failure Text
  | .workingDir => Except Failure Path
  | .depth => Nat

/-- States of a world. Answering a request may change the state. -/
class World (σ : Type) where
  answer : (q : Request) → σ → q.Reply × σ

/-- The reply of a world to a request, with the path in its normal form. -/
def Request.settled {σ : Type} [World σ] : (q : Request) → σ → q.Reply × σ
  | .listDir p, w => World.answer (.listDir (Path.normalize p)) w
  | .isFile p, w => World.answer (.isFile (Path.normalize p)) w
  | .isDir p, w => World.answer (.isDir (Path.normalize p)) w
  | .mkdir p, w => World.answer (.mkdir (Path.normalize p)) w
  | .rmdir p, w => World.answer (.rmdir (Path.normalize p)) w
  | .remove p, w => World.answer (.remove (Path.normalize p)) w
  | .stat p, w => World.answer (.stat (Path.normalize p)) w
  | .readText p, w => World.answer (.readText (Path.normalize p)) w
  | .identifier n, w => World.answer (.identifier n) w
  | .hasWideWords, w => World.answer .hasWideWords w
  | .variable n, w => World.answer (.variable n) w
  | .executable, w => World.answer .executable w
  | .outputOf c, w => World.answer (.outputOf c) w
  | .execute c, w => World.answer (.execute c) w
  | .isThere p, w => World.answer (.isThere p) w
  | .readConfig p, w => World.answer (.readConfig p) w
  | .workingDir, w => World.answer .workingDir w
  | .depth, w => World.answer .depth w

end Maskwalk

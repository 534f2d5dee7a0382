import Maskwalk.Text.Basic

/-!
# Tables of names

Characters that follow each other in the code often have names that start alike. So the names are
kept run by run, the run being known by its first code point. In a run a name is written as a digit
and a text: the digit says how many words the name shares with the one before it, and the text is
the rest of it. Between the names of a run there are semicolons, and a new line can start behind
each of them.

## Main definitions

* `NameTable`: names of characters, run by run.
* `NameTable.find?`: the code point of a name.
-/

namespace Maskwalk

/-- Names of characters: runs of consecutive code points, each with the first one. -/
abbrev NameTable := List (Nat × String)

namespace NameTable

/-- The first words of a text, each with the blank behind it. -/
def firstWords : Nat → Text → Text
  | 0, _ => []
  | _ + 1, [] => []
  | n + 1, c :: rest => c :: (if c = ' ' then firstWords n rest else firstWords (n + 1) rest)

/-- A name as it is written behind the name `last`. -/
def nameBehind (last : Text) : Text → Text
  | [] => []
  | digit :: rest => firstWords ((Text.digitValue? digit).getD 0) last ++ rest

/-- The names of a run in their order, behind the name `last`. -/
def namesBehind (last : Text) : List Text → List Text
  | [] => []
  | entry :: more => nameBehind last entry :: namesBehind (nameBehind last entry) more

/-- The entries of a run, without the blanks in front of them. -/
def entriesOf (run : String) : List Text :=
  (Text.pieces (· = ';') run.toList).map (List.dropWhile fun c => c = ' ' || c = '\n')

/-- The names of a run. -/
def namesOf (run : String) : List Text := namesBehind [] (entriesOf run)

/-- The code point of a name, if it stands in a table. -/
def find? (name : Text) (table : NameTable) : Option Nat :=
  table.findSome? fun (first, run) => ((namesOf run).idxOf? name).map (first + ·)

example : namesOf "0LEFT CEILING;0RIGHT CEILING;1FLOOR" =
    ["LEFT CEILING".toList, "RIGHT CEILING".toList, "RIGHT FLOOR".toList] := by decide

end NameTable

end Maskwalk

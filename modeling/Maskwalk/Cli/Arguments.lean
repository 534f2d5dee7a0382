import Maskwalk.Text.Alphanumeric

/-!
# Reading arguments

A program's arguments are options, which start with a hyphen, and plain arguments. A grammar says
which options there are, whether they take a value, and how many plain arguments belong together.

* A long option may be cut short as long as it is clear which one is meant; its value is the next
  plain argument, or stands behind an equals sign.
* Short options without values can be run together behind one hyphen.
* A hyphen alone, a negative number, and anything with a space in it are plain arguments, unless
  they are options. Behind two hyphens everything is plain.
* Some options end the reading: one asks for help, one for the version.

All arguments are classified before any is used, so that an unclear option is a mistake even behind
an option that ends the reading. An option that there is none of is passed over, but it is a mistake
in the end.

## Main definitions

* `Grammar`: the options and plain arguments that a program or a command takes.
* `Grammar.read`: what the arguments say.
-/

namespace Maskwalk

namespace Cli

/-- Why reading ends without a result: a mistake in the arguments, or a wish for help or for the
    version. -/
inductive Ending where
  | mistake
  | help
  | version
  deriving DecidableEq, Repr

/-- What an option does: end the reading, be set, or take a value. -/
inductive Effect where
  | ends (ending : Ending)
  | sets
  | takes
  deriving DecidableEq, Repr

/-- The plain arguments that belong together: one, at most one, at least one, or one and all that
    follows it, options included. -/
inductive Plain where
  | one
  | perhaps
  | several
  | command
  deriving DecidableEq, Repr

/-- An option with all its spellings. -/
structure Choice (α : Type) where
  spellings : List Text
  meaning : α
  effect : Effect

/-- The options and the plain arguments of a program or a command. -/
structure Grammar (α : Type) where
  choices : List (Choice α)
  plain : Option Plain

/-- What arguments say: the options that were given, with their values, and the plain arguments if
    there were any. `stray` says whether there was anything else. -/
structure Said (α : Type) where
  options : List (α × Option Text)
  plain : Option (List Text)
  stray : Bool

/-- What stands behind an option in the same argument: its value, or, where nothing stands between,
    more short options. -/
structure Behind where
  isTight : Bool
  text : Text

/-- An argument for itself: an option, which the grammar may not know, plain, or two hyphens that
    make all others plain. -/
inductive Mark (α : Type) where
  | option (choice : Choice α) (behind : Option Behind)
  | stranger
  | plain
  | hyphens

/-- Whether an argument is a negative number. -/
def isNegativeNumber (t : Text) : Bool :=
  match t with
  | '-' :: digits =>
    let digits := if digits.getLast? = some '\n' then digits.dropLast else digits
    let whole := digits.takeWhile Text.isDecimal
    match digits.drop whole.length with
    | [] => whole ≠ []
    | '.' :: fraction => fraction ≠ [] && fraction.all Text.isDecimal
    | _ => false
  | _ => false

/-- A text up to its first equals sign, and what follows it. -/
def splitEquals (t : Text) : Text × Option Text :=
  match t.dropWhile (· ≠ '=') with
  | [] => (t, none)
  | _ :: value => (t.takeWhile (· ≠ '='), some value)

namespace Grammar

variable {α : Type}

/-- All spellings, each with its option. -/
def spellings (g : Grammar α) : List (Text × Choice α) :=
  g.choices.flatMap fun c => c.spellings.map fun s => (s, c)

/-- The option with a spelling. -/
def spelled? (g : Grammar α) (t : Text) : Option (Choice α) :=
  (g.spellings.find? fun s => s.1 = t).map (·.2)

/-- The options that a long one can be cut short from. -/
def longCandidates (g : Grammar α) (t : Text) : List (Mark α) :=
  let (start, value) := splitEquals t
  (g.spellings.filter fun s => start.isPrefixOf s.1).map fun s =>
    .option s.2 (value.map (Behind.mk false))

/-- The options that a short one can mean: the one of its first letter, with the others behind it,
    or one that it is cut short from. -/
def shortCandidates (g : Grammar α) (t : Text) : List (Mark α) :=
  g.spellings.filterMap fun (s, c) =>
    if s = t.take 2 then some (.option c (some ⟨true, t.drop 2⟩))
    else if t.isPrefixOf s then some (.option c none)
    else none

/-- An argument classified. -/
def markOf (g : Grammar α) (t : Text) : Except Ending (Mark α) :=
  match t with
  | '-' :: rest =>
    match g.spelled? t, rest with
    | some c, _ => .ok (.option c none)
    | none, [] => .ok .plain
    | none, second :: _ =>
      let (name, value) := splitEquals t
      match g.spelled? name, value with
      | some c, some value => .ok (.option c (some ⟨false, value⟩))
      | _, _ =>
        match if second = '-' then g.longCandidates t else g.shortCandidates t with
        | [mark] => .ok mark
        | _ :: _ :: _ => .error .mistake
        | [] => .ok (if isNegativeNumber t || t.elem ' ' then .plain else .stranger)
  | _ => .ok .plain

/-- Arguments classified, in turn. -/
def marksOf (g : Grammar α) : List Text → Except Ending (List (Text × Mark α))
  | [] => .ok []
  | t :: more =>
    if t = ['-', '-'] then .ok ((t, .hyphens) :: more.map fun t => (t, .plain))
    else do
      let mark ← g.markOf t
      return (t, mark) :: (← marksOf g more)

end Grammar

/-- Whether an argument is plain. -/
def Mark.isPlain {α : Type} : Mark α → Bool
  | .plain => true
  | _ => false

/-- Whether an argument is a pair of hyphens that makes all others plain. -/
def Mark.isHyphens {α : Type} : Mark α → Bool
  | .hyphens => true
  | _ => false

/-- Whether an argument is an option, known or not. -/
def Mark.isOption {α : Type} : Mark α → Bool
  | .option .. | .stranger => true
  | _ => false

/-- How many arguments from here on belong to the plain ones, if the right ones are here. -/
def Plain.extent {α : Type} (kind : Plain) (items : List (Text × Mark α)) : Option Nat :=
  let front := (items.takeWhile fun i => i.2.isHyphens).length
  let rest := items.drop front
  let ending (n : Nat) : Nat := n + ((rest.drop n).takeWhile fun i => i.2.isHyphens).length
  let starts := rest.head?.any fun i => i.2.isPlain
  match kind with
  | .one => if starts then some (front + ending 1) else none
  | .perhaps => some (front + ending (if starts then 1 else 0))
  | .several =>
    if starts then some (front + (rest.takeWhile fun i => !i.2.isOption).length) else none
  | .command => if starts then some items.length else none

/-- The plain arguments among those that belong together: a pair of hyphens is no argument, but
    what belongs to a command is not looked into. -/
def Plain.values (kind : Plain) (texts : List Text) : List Text :=
  if kind = .command then texts else texts.erase ['-', '-']

/-- How far reading has come. -/
structure Reading (α : Type) where
  options : List (α × Option Text)
  wanted : Option Plain
  plain : Option (List Text)
  stray : Bool

namespace Reading

variable {α : Type}

/-- Takes the plain arguments that belong together, and says how many arguments they are. -/
def takePlain (r : Reading α) (items : List (Text × Mark α)) : Nat × Reading α :=
  match r.wanted with
  | none => (0, r)
  | some kind =>
    match kind.extent items with
    | none => (0, r)
    | some n =>
      let values := kind.values ((items.take n).map (·.1))
      (n, { r with wanted := none, plain := some values })

/-- An option with its effect; a value is only given to one that takes it. -/
def apply (r : Reading α) (c : Choice α) (value : Option Text) : Except Ending (Reading α) :=
  match c.effect with
  | .ends ending => .error ending
  | _ => .ok { r with options := r.options ++ [(c.meaning, value)] }

/-- How a run of short options ends: with a value, with one that may take the next argument, or with
    what is no option. -/
inductive RunEnd (α : Type) where
  | value (choice : Choice α) (text : Text)
  | last (choice : Choice α)
  | stranger

/-- A run of options in one argument: those in front, and how it ends. An option that takes no value
    can only be followed by short ones, with nothing between. -/
def splitRun (g : Grammar α) (c : Choice α) (isTight : Bool) (text : Text) :
    Except Ending (List (Choice α) × RunEnd α) :=
  if c.effect = .takes then .ok ([], .value c text)
  else match text with
    | [] => .error .mistake
    | letter :: more =>
      if !isTight || letter = '-' then .error .mistake
      else match g.spelled? ['-', letter] with
        | none => .ok ([c], .stranger)
        | some next =>
          match more with
          | [] => .ok ([c], .last next)
          | '=' :: value => do
            let (run, ending) ← splitRun g next false value
            return (c :: run, ending)
          | second :: rest => do
            let (run, ending) ← splitRun g next true (second :: rest)
            return (c :: run, ending)

/-- Applies options one after the other. -/
def applyAll (r : Reading α) : List (Choice α) → Except Ending (Reading α)
  | [] => .ok r
  | c :: more => do applyAll (← r.apply c none) more

/-- The value that the next argument gives to an option, if it takes one. -/
def nextValue (c : Choice α) (rest : List (Text × Mark α)) : Except Ending (Option Text) :=
  if c.effect = .takes then
    match rest with
    | (value, .plain) :: _ => .ok (some value)
    | _ => .error .mistake
  else .ok none

/-- Applies an option and what is behind it, and gives the arguments that are left. All of it is
    looked at before any of it is applied. -/
def takeOption (g : Grammar α) (r : Reading α) (c : Choice α) (behind : Option Behind)
    (rest : List (Text × Mark α)) : Except Ending (Reading α × List (Text × Mark α)) := do
  let (run, ending) ← match behind with
    | none => pure ([], RunEnd.last c)
    | some behind => splitRun g c behind.isTight behind.text
  match ending with
  | .value c text =>
    let r ← r.applyAll run
    return (← r.apply c (some text), rest)
  | .stranger => return ({ ← r.applyAll run with stray := true }, rest)
  | .last c =>
    let value ← nextValue c rest
    let r ← r.applyAll run
    return (← r.apply c value, if value.isSome then rest.drop 1 else rest)

/-- Reads classified arguments: plain ones and options by turns, up to the last option, and then the
    plain ones behind it. -/
def run (g : Grammar α) : Nat → List (Text × Mark α) → Reading α → Except Ending (Reading α)
  | 0, _, _ => .error .mistake
  | fuel + 1, items, r =>
    match items with
    | (_, .option c behind) :: rest => do
      let (r, rest) ← takeOption g r c behind rest
      run g fuel rest r
    | (_, .stranger) :: rest => run g fuel rest { r with stray := true }
    | _ =>
      let (n, r) := r.takePlain items
      if !(items.any fun i => i.2.isOption) then .ok { r with stray := r.stray || n < items.length }
      else if n = 0 then
        run g fuel (items.dropWhile fun i => !i.2.isOption) { r with stray := true }
      else run g fuel (items.drop n) r

end Reading

/-- What arguments say by a grammar. Plain arguments that have to be there must be. -/
def Grammar.read {α : Type} (g : Grammar α) (arguments : List Text) : Except Ending (Said α) := do
  let items ← g.marksOf arguments
  let r ← Reading.run g (arguments.length + 1) items ⟨[], g.plain, none, false⟩
  match r.wanted with
  | some .one | some .several => throw .mistake
  | _ => return ⟨r.options, r.plain, r.stray⟩

end Cli

end Maskwalk

import Maskwalk.Number.Reading
import Maskwalk.Regex.Basic
import Maskwalk.Text.Identifier
import Maskwalk.Text.Named

/-!
# The text of regular expressions

A pattern is read from left to right. Reading starts with cutting it into tokens, a backslash
together with the character behind it; then alternatives are read, made of sequences, made of
items with their repetitions. Modes are switched on for a whole pattern at its start, or for a
group in front of it, and become part of every leaf that is read under them.

A pattern can refer to its groups by number or by name. So the reader keeps count of the groups
opened, with the widths of those already closed: only a closed group can be referred to. Inside a
look back the groups of that same look back cannot be referred to, since it is matched from its
start and not from its end.

Behind a backslash a character can be written by its number, or after the letter N by its name in
braces. A name that no character has is a mistake in the pattern, like a brace that is missing.

What a look back takes must have one width. A look back for which this is not so is noted while the
pattern is read, and refused at the end: a mistake anywhere in the text of the pattern comes first.

## Main definitions

* `Regex.Problem`: why a text is no pattern.
* `Regex.Modes`: the modes in force.
* `Regex.compile`: the expression that a pattern writes.
-/

namespace Maskwalk

namespace Regex

/-- Why a text is no pattern: it is malformed, a look back has no one width or one beyond all
    bounds, a repetition has a count beyond all bounds, or it asks for the letters of ASCII and of
    all scripts at once. -/
inductive Problem where
  | malformed
  | unevenLookBack
  | farLookBack
  | countTooLarge
  | lettersClash
  deriving DecidableEq, Repr

/-- Whether a problem is a mistake in the pattern as such, and not in its numbers or modes. -/
def Problem.isMistake : Problem → Bool
  | .malformed | .unevenLookBack | .farLookBack => true
  | .countTooLarge | .lettersClash => false

/-- The modes in force: letters of any case, lines of their own, a dot for every character, blanks
    and comments for the reader's eye, and classes of ASCII. `wide` asks for the classes of all
    scripts, which are the default. -/
structure Modes where
  anyCase : Bool
  byLine : Bool
  dotAll : Bool
  spaced : Bool
  ascii : Bool
  wide : Bool

/-- No mode in force. -/
def Modes.plain : Modes := ⟨false, false, false, false, false, false⟩

/-- How letters are compared in modes. -/
def Modes.casing (m : Modes) : Casing :=
  if m.anyCase then (if m.ascii then .anyAsciiCase else .anyCase) else .exact

/-- A character of a pattern, or one behind a backslash, or a backslash with nothing behind it. -/
inductive Token where
  | plain (c : Char)
  | escape (c : Char)
  | dangling
  deriving DecidableEq, Repr

/-- The tokens of a pattern. -/
def tokensOf : Text → List Token
  | [] => []
  | '\\' :: c :: rest => .escape c :: tokensOf rest
  | c :: rest => (if c = '\\' then .dangling else .plain c) :: tokensOf rest

/-- The characters of a token. -/
def Token.text : Token → Text
  | .plain c => [c]
  | .escape c => ['\\', c]
  | .dangling => ['\\']

/-- What the reader knows: the tokens left, the number of the next group, the groups with names,
    the widths of the closed groups, the number of the first group inside the outermost look back
    being read, the groups that conditions ask for, the problem of the first look back that has one,
    and the modes of the whole pattern. -/
structure Reader where
  rest : List Token
  nextGroup : Nat
  names : List (Text × Nat)
  closed : List (Nat × Width)
  lookBack : Option Nat
  asked : List Nat
  late : Option Problem
  modes : Modes

/-- A step of reading. -/
abbrev Reads := StateT Reader (Except Problem)

/-- Reading fails. -/
def refuse {α : Type} : Reads α := throw .malformed

/-- The next token, which stays to be read. -/
def peek : Reads (Option Token) := do return (← get).rest.head?

/-- Goes on behind the next token. A backslash that ends the pattern is refused as soon as it
    comes next. -/
def skip : Reads Unit := do
  let r ← get
  let rest := r.rest.tail
  if rest.head? = some .dangling then refuse else set { r with rest }

/-- The next token, read. -/
def take : Reads (Option Token) := do
  let token ← peek
  skip
  return token

/-- Reads a character if it comes next, and says whether it did. -/
def takeIf (c : Char) : Reads Bool := do
  if (← peek) = some (.plain c) then
    skip
    return true
  else return false

/-- At most a number of characters of a kind. -/
def takeWhile (kind : Char → Bool) : Nat → Reads Text
  | 0 => return []
  | n + 1 => do
    match ← peek with
    | some (.plain c) =>
      if kind c then
        skip
        return c :: (← takeWhile kind n)
      else return []
    | _ => return []

/-- All characters of a kind that come next. -/
def takeAll (kind : Char → Bool) : Reads Text := do takeWhile kind (← get).rest.length

/-- What comes before a character, which is read as well; it must not be empty. -/
def takeUntil (stop : Char) : Nat → Text → Reads Text
  | 0, _ => refuse
  | fuel + 1, sofar => do
    match ← take with
    | none => refuse
    | some token =>
      if token = .plain stop then (if sofar.isEmpty then refuse else return sofar)
      else takeUntil stop fuel (sofar ++ token.text)

/-- A name in front of a character. -/
def takeName (stop : Char) : Reads Text := do takeUntil stop ((← get).rest.length + 1) []

/-- One code point as an expression. -/
def literal (m : Modes) (n : Nat) : Regex := .one ⟨false, [.range n n], m.casing, m.ascii⟩

/-- A class that a letter names behind a backslash, and whether it is the complement. -/
def classOf? : Char → Option (Class × Bool)
  | 'd' => some (.digit, false)
  | 'D' => some (.digit, true)
  | 's' => some (.blank, false)
  | 'S' => some (.blank, true)
  | 'w' => some (.word, false)
  | 'W' => some (.word, true)
  | _ => none

/-- A control character that a letter names behind a backslash. -/
def controlOf? : Char → Option Nat
  | 'a' => some 7
  | 'b' => some 8
  | 'f' => some 12
  | 'n' => some 10
  | 'r' => some 13
  | 't' => some 9
  | 'v' => some 11
  | '\\' => some 92
  | _ => none

/-- Whether a character is an octal digit. -/
def isOctal (c : Char) : Bool := '0' ≤ c && c ≤ '7'

/-- A code point in exactly so many hexadecimal digits. -/
def hexEscape (count : Nat) : Reads Nat := do
  let digits ← takeWhile (fun c => (Text.hexValue? c).isSome) count
  let n := Text.natOf 16 digits
  if digits.length = count ∧ n < 0x110000 then return n else refuse

/-- A code point that is written as the name of its character, in braces. -/
def nameEscape : Reads Nat := do
  if !(← takeIf '\x7b') then refuse
  match Text.named? (← takeName '\x7d') with
  | some n => return n
  | none => refuse

/-- A code point behind a backslash that is written in the same way inside and outside of sets,
    by its number or by the name of its character, or nothing if the letter asks for something
    else. -/
def codeEscape? (c : Char) : Reads (Option Nat) := do
  if c = 'x' then return some (← hexEscape 2)
  else if c = 'u' then return some (← hexEscape 4)
  else if c = 'U' then return some (← hexEscape 8)
  else if c = 'N' then return some (← nameEscape)
  else return none

/-- A member of a set behind a backslash. -/
def setEscape (c : Char) : Reads Member := do
  match controlOf? c, classOf? c with
  | some n, _ => return .range n n
  | none, some (which, negated) => return .named which negated
  | none, none =>
    match ← codeEscape? c with
    | some n => return .range n n
    | none =>
      if isOctal c then
        let n := Text.natOf 8 (c :: (← takeWhile isOctal 2))
        if n ≤ 255 then return .range n n else refuse
      else if Text.isDigit c ∨ c.isAlpha then refuse
      else return .range c.toNat c.toNat

/-- A member of a set that a token starts. -/
def setMember (token : Token) : Reads Member :=
  match token with
  | .plain c => return .range c.toNat c.toNat
  | .escape c => setEscape c
  | .dangling => refuse

/-- The members of a set up to its closing bracket. A bracket that comes first is a member. -/
def setMembers : Nat → List Member → Reads (List Member)
  | 0, _ => refuse
  | fuel + 1, sofar => do
    match ← take with
    | none => refuse
    | some token =>
      if token = .plain ']' ∧ !sofar.isEmpty then return sofar
      else
        let low ← setMember token
        if ← takeIf '-' then
          match ← take with
          | none => refuse
          | some (.plain ']') => return sofar ++ [low, .range 45 45]
          | some token =>
            let high ← setMember token
            match low, high with
            | .range a _, .range b _ =>
              if b < a then refuse else setMembers fuel (sofar ++ [.range a b])
            | _, _ => refuse
        else setMembers fuel (sofar ++ [low])

/-- A set behind its opening bracket. -/
def charSet (m : Modes) : Reads Regex := do
  let negated ← takeIf '^'
  let members ← setMembers ((← get).rest.length + 1) []
  return .one ⟨negated, members, m.casing, m.ascii⟩

/-- Whether a group is closed. -/
def isClosed (index : Nat) : Reads Bool := do
  return (valueOf? index (← get).closed).isSome

/-- Refuses a group that the look back being read cannot refer to. -/
def checkLookBack (index : Nat) : Reads Unit := do
  match (← get).lookBack with
  | none => return
  | some first => if !(← isClosed index) || first ≤ index then refuse

/-- A reference to a group, which has to be closed. -/
def reference (m : Modes) (index : Nat) : Reads Regex := do
  if !(← isClosed index) then refuse
  checkLookBack index
  return .again index m.casing

/-- What a digit behind a backslash starts: an octal code of three digits or beginning with zero,
    or the number of a group. -/
def numberEscape (m : Modes) (c : Char) : Reads Regex := do
  if c = '0' then
    return literal m (Text.natOf 8 (c :: (← takeWhile isOctal 2)))
  else
    let second ← takeWhile Text.isDigit 1
    let octal := isOctal c && second.all isOctal && !second.isEmpty
    let third ← if octal then takeWhile isOctal 1 else pure []
    if third.isEmpty then reference m (Text.natOf 10 (c :: second))
    else
      let n := Text.natOf 8 (c :: second ++ third)
      if n ≤ 255 then return literal m n else refuse

/-- What a character behind a backslash stands for, and whether that is an anchor. -/
def escapeItem (m : Modes) (c : Char) : Reads (Regex × Bool) := do
  match c with
  | 'A' => return (.anchor .textStart, true)
  | 'Z' => return (.anchor .textEnd, true)
  | 'b' => return (.anchor (.wordEdge m.ascii false), true)
  | 'B' => return (.anchor (.wordEdge m.ascii true), true)
  | c =>
    match classOf? c, controlOf? c with
    | some (which, negated), _ =>
      return (.one ⟨false, [.named which negated], m.casing, m.ascii⟩, false)
    | none, some n => return (literal m n, false)
    | none, none =>
      match ← codeEscape? c with
      | some n => return (literal m n, false)
      | none =>
        if Text.isDigit c then return (← numberEscape m c, false)
        else if c.isAlpha then refuse
        else return (literal m c.toNat, false)

/-- The greatest count of a repetition, plus one: `2 ^ 32 - 1`. -/
def countLimit : Nat := 0xFFFFFFFF

/-- A count in braces, which may be missing. -/
def count? (digits : Text) : Reads (Option Nat) :=
  if digits.isEmpty then return none
  else
    let n := Text.natOf 10 digits
    if countLimit ≤ n then throw .countTooLarge else return some n

/-- The counts in braces behind an opening brace, or nothing if what follows is no such thing. -/
def braces? : Reads (Option (Nat × Option Nat)) := do
  let start := (← get).rest
  if (← peek) = some (.plain '\x7d') then return none
  let low ← takeAll Text.isDigit
  let ranged ← takeIf ','
  let high ← if ranged then takeAll Text.isDigit else pure low
  if !(← takeIf '\x7d') then
    modify fun r => { r with rest := start }
    return none
  let least := (← count? low).getD 0
  let most ← count? high
  match most with
  | some n => if n < least then refuse else return some (least, most)
  | none => return some (least, none)

/-- The counts that a character asks for, if it is a sign of repetition. -/
def counts? (c : Char) : Reads (Option (Nat × Option Nat)) :=
  match c with
  | '?' => return some (0, some 1)
  | '*' => return some (0, none)
  | '+' => return some (1, none)
  | '\x7b' => braces?
  | _ => return none

/-- The mode of a letter, switched. -/
def Modes.switch (m : Modes) (on : Bool) : Char → Option Modes
  | 'i' => some { m with anyCase := on }
  | 'm' => some { m with byLine := on }
  | 's' => some { m with dotAll := on }
  | 'x' => some { m with spaced := on }
  | 'a' => some { m with ascii := on }
  | 'u' => some { m with wide := on }
  | _ => none

/-- The letters of modes that a group may switch off. -/
def isFreeMode (c : Char) : Bool := "imsx".toList.elem c

/-- Letters of modes from the given one on, and the character behind them. -/
def modeLetters (stops : Text) (free : Bool) : Nat → Char → Reads (Text × Char)
  | 0, _ => refuse
  | fuel + 1, c => do
    if (Modes.plain.switch true c).isNone || (free && !isFreeMode c) then refuse
    match ← take with
    | some (.plain next) =>
      if stops.elem next then return ([c], next)
      else
        let (more, stop) ← modeLetters stops free fuel next
        return (c :: more, stop)
    | _ => refuse

/-- What a row of mode letters does: for a whole pattern, or for one group. -/
inductive ModeChange where
  | forAll (on : Text)
  | forGroup (on off : Text)

/-- Modes with letters switched. The classes of ASCII and of all scripts exclude each other. -/
def Modes.withLetters (m : Modes) (on : Bool) (letters : Text) : Modes :=
  letters.foldl (fun m c => (m.switch on c).getD m) m

/-- The change that mode letters ask for, from the first character on. -/
def modeChange (c : Char) : Reads ModeChange := do
  let fuel := (← get).rest.length + 1
  let (on, stop) ← if c = '-' then pure ([], '-') else modeLetters [')', '-', ':'] false fuel c
  if on.elem 'a' && on.elem 'u' then refuse
  if stop = ')' then return .forAll on
  if stop = ':' then return .forGroup on []
  match ← take with
  | some (.plain first) =>
    let (off, _) ← modeLetters [':'] true fuel first
    if on.any off.elem then refuse
    return .forGroup on off
  | _ => refuse

/-- The modes inside a group that changes them. -/
def Modes.inGroup (m : Modes) (on off : Text) : Modes :=
  let m := if on.elem 'a' || on.elem 'u' then { m with ascii := false, wide := false } else m
  (m.withLetters true on).withLetters false off

/-- The group that a condition names. -/
def conditionGroup : Reads Nat := do
  let name ← takeName ')'
  if Text.isIdentifier name then
    match valueOf? name (← get).names with
    | some index => return index
    | none => refuse
  else
    match integer? 10 name with
    | some (.ofNat index) =>
      if index = 0 then refuse
      modify fun r => { r with asked := index :: r.asked }
      return index
    | _ => refuse

/-- Opens a group, which may have a name that no other group has. -/
def openGroup (name : Option Text) : Reads Nat := do
  let r ← get
  let index := r.nextGroup
  match name with
  | none => set { r with nextGroup := index + 1 }
  | some name =>
    if (valueOf? name r.names).isSome then refuse
    else set { r with nextGroup := index + 1, names := (name, index) :: r.names }
  return index

/-- A step that has to read a closing parenthesis. -/
def closing : Reads Unit := do if !(← takeIf ')') then refuse

/-- Skips a comment up to its closing parenthesis. -/
def skipComment : Nat → Reads Unit
  | 0 => refuse
  | fuel + 1 => do
    match ← take with
    | none => refuse
    | some token => if token = .plain ')' then return else skipComment fuel

/-- Skips the rest of a line. -/
def skipLine : Nat → Reads Unit
  | 0 => return
  | fuel + 1 => do
    match ← take with
    | none => return
    | some token => if token = .plain '\n' then return else skipLine fuel

/-- What is wrong with the width of what a look back takes. -/
def widthProblem? (w : Width) : Option Problem :=
  if countLimit < w.least then some .farLookBack
  else if w.least ≠ w.most then some .unevenLookBack
  else none

/-- The expression of a look back, over the one width of its body. `before` is the problem noted
    before its body was read; its own problem comes before those in its body. -/
def lookBehind (before : Option Problem) (negated : Bool) (body : Regex) : Reads Regex := do
  let w := body.width (← get).closed
  modify fun r => { r with late := (before.or (widthProblem? w)).or r.late }
  return .look (some w.least) negated body

/-- What an item is, as far as a repetition behind it wants to know. -/
inductive ItemKind where
  | ordinary
  | anchored
  | repetition
  deriving DecidableEq

/-- Items read so far, the last one first. -/
abbrev Items := List (Regex × ItemKind)

/-- The sequence of items. -/
def Items.seq (items : Items) : Regex :=
  match items with
  | [] => .empty
  | (last, _) :: front => front.foldl (fun r item => .seq item.1 r) last

/-- An item repeated. It must be there, and be neither an anchor nor a repetition. -/
def repeatLast (items : Items) (least : Nat) (most : Option Nat) : Reads Items := do
  match items with
  | (body, .ordinary) :: front =>
    let isLazy ← takeIf '?'
    let isPossessive ← if isLazy then pure false else takeIf '+'
    let greed : Greed :=
      if isLazy then .lazy else if isPossessive then .possessive else .greedy
    return (.repeated greed least most body, .repetition) :: front
  | _ => refuse

mutual

/-- Alternatives up to a closing parenthesis or the end. At the top of a pattern the first one
    may start with modes for all of it. -/
def alternatives (fuel : Nat) (top : Bool) (m : Modes) : Reads Regex := do
  match fuel with
  | 0 => refuse
  | fuel + 1 =>
    let first ← sequence fuel top m []
    moreAlternatives fuel top m first

/-- Further alternatives behind those read. -/
def moreAlternatives (fuel : Nat) (top : Bool) (m : Modes) (sofar : Regex) : Reads Regex := do
  match fuel with
  | 0 => refuse
  | fuel + 1 =>
    if ← takeIf '|' then
      let all := (← get).modes
      let m := if top then all else m
      let next ← sequence fuel false m []
      return .alt sofar (← moreAlternatives fuel top m next)
    else return sofar

/-- A sequence of items behind those read. -/
def sequence (fuel : Nat) (first : Bool) (m : Modes) (items : Items) : Reads Regex := do
  match fuel with
  | 0 => refuse
  | fuel + 1 =>
    match ← peek with
    | none => return items.seq
    | some (.plain '|') => return items.seq
    | some (.plain ')') => return items.seq
    | some .dangling => refuse
    | some (.escape c) =>
      skip
      let (item, isAnchor) ← escapeItem m c
      sequence fuel first m ((item, if isAnchor then .anchored else .ordinary) :: items)
    | some (.plain c) =>
      skip
      if m.spaced && " \t\n\r\x0b\x0c".toList.elem c then sequence fuel first m items
      else if m.spaced && c = '#' then
        skipLine ((← get).rest.length + 1)
        sequence fuel first m items
      else if c = '[' then
        let set ← charSet m
        sequence fuel first m ((set, .ordinary) :: items)
      else if c = '.' then sequence fuel first m ((.any m.dotAll, .ordinary) :: items)
      else if c = '^' then
        let test : Anchor := if m.byLine then .lineStart else .textStart
        sequence fuel first m ((.anchor test, .anchored) :: items)
      else if c = '$' then
        let test : Anchor := if m.byLine then .lineEnd else .lastLineEnd
        sequence fuel first m ((.anchor test, .anchored) :: items)
      else if c = '(' then
        match ← parenthesis fuel m with
        | .inl item => sequence fuel first m ((item, .ordinary) :: items)
        | .inr none => sequence fuel first m items
        | .inr (some on) =>
          if !first || !items.isEmpty then refuse
          let all := (← get).modes.withLetters true on
          modify fun r => { r with modes := all }
          sequence fuel first all items
      else
        match ← counts? c with
        | some (least, most) =>
          sequence fuel first m (← repeatLast items least most)
        | none => sequence fuel first m ((literal m c.toNat, .ordinary) :: items)

/-- What an opening parenthesis starts: an item, a comment, or modes for all of the pattern. -/
def parenthesis (fuel : Nat) (m : Modes) : Reads (Regex ⊕ Option Text) := do
  match fuel with
  | 0 => refuse
  | fuel + 1 =>
    if !(← takeIf '?') then return .inl (← captured fuel none m)
    match ← take with
    | some (.plain 'P') =>
      match ← take with
      | some (.plain '<') =>
        let name ← takeName '>'
        if Text.isIdentifier name then return .inl (← captured fuel (some name) m) else refuse
      | some (.plain '=') =>
        let name ← takeName ')'
        if !Text.isIdentifier name then refuse
        match valueOf? name (← get).names with
        | some index => return .inl (← reference m index)
        | none => refuse
      | _ => refuse
    | some (.plain ':') => return .inl (← grouped fuel m)
    | some (.plain '>') => return .inl (.atomic (← grouped fuel m))
    | some (.plain '#') =>
      skipComment ((← get).rest.length + 1)
      return .inr none
    | some (.plain '=') => return .inl (.look none false (← grouped fuel m))
    | some (.plain '!') => return .inl (.look none true (← grouped fuel m))
    | some (.plain '<') =>
      match ← take with
      | some (.plain '=') => return .inl (← lookedBack fuel false m)
      | some (.plain '!') => return .inl (← lookedBack fuel true m)
      | _ => refuse
    | some (.plain '(') => return .inl (← condition fuel m)
    | some (.plain c) =>
      match ← modeChange c with
      | .forAll on => return .inr (some on)
      | .forGroup on off => return .inl (← grouped fuel (m.inGroup on off))
    | _ => refuse

/-- Alternatives and their closing parenthesis. -/
def grouped (fuel : Nat) (m : Modes) : Reads Regex := do
  match fuel with
  | 0 => refuse
  | fuel + 1 =>
    let body ← alternatives fuel false m
    closing
    return body

/-- A group that can be referred to. -/
def captured (fuel : Nat) (name : Option Text) (m : Modes) : Reads Regex := do
  match fuel with
  | 0 => refuse
  | fuel + 1 =>
    let index ← openGroup name
    let body ← grouped fuel m
    modify fun r => { r with closed := (index, body.width r.closed) :: r.closed }
    return .group index body

/-- A look back. Groups inside it cannot be referred to from inside it. -/
def lookedBack (fuel : Nat) (negated : Bool) (m : Modes) : Reads Regex := do
  match fuel with
  | 0 => refuse
  | fuel + 1 =>
    let before := (← get).late
    let outer := (← get).lookBack
    modify fun r => { r with lookBack := some (outer.getD r.nextGroup) }
    let body ← alternatives fuel false m
    modify fun r => { r with lookBack := outer }
    closing
    lookBehind before negated body

/-- A choice by whether a group has taken something. -/
def condition (fuel : Nat) (m : Modes) : Reads Regex := do
  match fuel with
  | 0 => refuse
  | fuel + 1 =>
    let index ← conditionGroup
    checkLookBack index
    let yes ← sequence fuel false m []
    let no ← if ← takeIf '|' then sequence fuel false m [] else pure .empty
    closing
    return .ifTaken index yes no

end

/-- The steps that reading a pattern takes at most: a few for every token. -/
def fuelFor (tokens : List Token) : Nat := 8 * tokens.length + 16

/-- Reads a whole pattern. -/
def wholePattern (m : Modes) (fuel : Nat) : Reads Regex := do
  if (← peek) = some .dangling then refuse
  let r ← alternatives fuel true m
  let left ← get
  if left.modes.ascii && left.modes.wide then throw .lettersClash
  if !left.rest.isEmpty then refuse
  if left.asked.any (left.nextGroup ≤ ·) then refuse
  match left.late with
  | some problem => throw problem
  | none => return r

/-- The expression that a pattern writes. -/
def compile (pattern : Text) (anyCase : Bool) : Except Problem Regex :=
  let tokens := tokensOf pattern
  let modes := { Modes.plain with anyCase }
  let reader : Reader := ⟨tokens, 1, [], [], none, [], none, modes⟩
  (wholePattern modes (fuelFor tokens)).run' reader

end Regex

end Maskwalk

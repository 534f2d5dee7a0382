import Maskwalk.Regex.Basic

/-!
# Searching with a regular expression

An expression is matched by trying: where it leaves a choice, the choices are tried in order, and
the first one with which the rest succeeds is kept. What the rest is, is handed to the matcher as a
function, so that an expression never has to know what stands around it, and the matcher is a
recursion on the expression.

A repetition goes round its body until its counts are met. An optional round that took nothing is
the last one, so a repetition has at most one round more than there are characters left beyond the
rounds it must make, and that number is the fuel it starts with.

## Main definitions

* `Regex.Place`: a place in a text, with what the groups took so far.
* `Regex.run`: all that an expression does at a place.
* `Regex.found`: whether an expression matches somewhere in a text.
-/

namespace Maskwalk

namespace Regex

/-- A place in a text: what stands in front of it, from the nearest character outwards, how much
    that is, what follows it, and what the groups took, the latest first. -/
structure Place where
  front : Text
  offset : Nat
  rest : Text
  taken : List (Nat × Text)

/-- One character further on. -/
def Place.next? (p : Place) : Option (Char × Place) :=
  match p.rest with
  | [] => none
  | c :: rest => some (c, { p with front := c :: p.front, offset := p.offset + 1, rest })

/-- A number of characters back. -/
def Place.back? (p : Place) : Nat → Option Place
  | 0 => some p
  | n + 1 =>
    match p.front with
    | [] => none
    | c :: front => Place.back? { p with front, offset := p.offset - 1, rest := c :: p.rest } n

/-- What remains to be done behind an expression. -/
abbrev Rest := Place → Option Place

/-- Whether the character that a text starts with is part of a word. -/
def wordFirst (ascii : Bool) : Text → Bool
  | [] => false
  | c :: _ => Class.word.holds ascii c

/-- Whether a test holds at a place. -/
def Anchor.holds (p : Place) : Anchor → Bool
  | .textStart => p.front.isEmpty
  | .lineStart => p.front.isEmpty || p.front.head? = some '\n'
  | .textEnd => p.rest.isEmpty
  | .lineEnd => p.rest.isEmpty || p.rest.head? = some '\n'
  | .lastLineEnd => p.rest.isEmpty || p.rest = ['\n']
  | .wordEdge ascii negated =>
    if p.front.isEmpty && p.rest.isEmpty then false
    else (wordFirst ascii p.front != wordFirst ascii p.rest) != negated

/-- Takes a text again, letter by letter. -/
def takeAgain (casing : Casing) : Text → Place → Option Place
  | [], p => some p
  | a :: more, p =>
    match p.next? with
    | none => none
    | some (c, p) =>
      let same : Bool := match casing with
        | .exact => a = c
        | .anyCase => Text.lower a = Text.lower c
        | .anyAsciiCase => a.toLower = c.toLower
      if same then takeAgain casing more p else none

/-- Whether a count may still grow. -/
def mayGrow (count : Nat) : Option Nat → Bool
  | none => true
  | some most => count < most

/-- Rounds of a body, as many as possible first. `last` is where the latest optional round
    started. -/
def greedyRounds (body : Rest → Rest) (least : Nat) (most : Option Nat) (done : Rest) :
    Nat → Nat → Option Nat → Rest
  | 0, _, _, _ => none
  | fuel + 1, count, last, p =>
    if count < least then body (greedyRounds body least most done fuel (count + 1) last) p
    else if mayGrow count most && last ≠ some p.offset then
      body (greedyRounds body least most done fuel (count + 1) (some p.offset)) p <|> done p
    else done p

/-- Rounds of a body, as few as possible first. -/
def lazyRounds (body : Rest → Rest) (least : Nat) (most : Option Nat) (done : Rest) :
    Nat → Nat → Option Nat → Rest
  | 0, _, _, _ => none
  | fuel + 1, count, last, p =>
    if count < least then body (lazyRounds body least most done fuel (count + 1) last) p
    else done p <|>
      if mayGrow count most && last ≠ some p.offset then
        body (lazyRounds body least most done fuel (count + 1) (some p.offset)) p
      else none

/-- Rounds of a body, each settled before the next, as many as possible and no other number. -/
def possessiveRounds (body : Rest → Rest) (least : Nat) (most : Option Nat) :
    Nat → Nat → Option Nat → Place → Option Place
  | 0, _, _, _ => none
  | fuel + 1, count, last, p =>
    if count < least then
      match body some p with
      | some p => possessiveRounds body least most fuel (count + 1) last p
      | none => none
    else if mayGrow count most && last ≠ some p.offset then
      match body some p with
      | some q => possessiveRounds body least most fuel (count + 1) (some p.offset) q
      | none => some p
    else some p

/-- What an expression does at a place, with the rest to be done behind it. -/
def run : Regex → Rest → Rest
  | empty, k, p => k p
  | one set, k, p =>
    match p.next? with
    | some (c, q) => if set.mem c then k q else none
    | none => none
  | any newline, k, p =>
    match p.next? with
    | some (c, q) => if newline || c ≠ '\n' then k q else none
    | none => none
  | anchor test, k, p => if test.holds p then k p else none
  | seq a b, k, p => run a (run b k) p
  | alt a b, k, p => run a k p <|> run b k p
  | group index body, k, p =>
    run body (fun q =>
      k { q with taken := (index, p.rest.take (q.offset - p.offset)) :: q.taken }) p
  | again index casing, k, p =>
    match valueOf? index p.taken with
    | none => none
    | some t => (takeAgain casing t p).bind k
  | look behind negated body, k, p =>
    match (p.back? (behind.getD 0)).bind (run body some) with
    | some q => if negated then none else k { p with taken := q.taken }
    | none => if negated then k p else none
  | atomic body, k, p => (run body some p).bind k
  | repeated greed least most body, k, p =>
    let fuel := least + p.rest.length + 2
    match greed with
    | .greedy => greedyRounds (run body) least most k fuel 0 none p
    | .lazy => lazyRounds (run body) least most k fuel 0 none p
    | .possessive => (possessiveRounds (run body) least most fuel 0 none p).bind k
  | ifTaken index yes no, k, p =>
    if (valueOf? index p.taken).isSome then run yes k p else run no k p

/-- Whether an expression matches at a place or at one further on. -/
def foundFrom (r : Regex) (front : Text) (offset : Nat) : Text → Bool
  | [] => (run r some ⟨front, offset, [], []⟩).isSome
  | c :: rest =>
    (run r some ⟨front, offset, c :: rest, []⟩).isSome
      || foundFrom r (c :: front) (offset + 1) rest

/-- Whether an expression matches somewhere in a text. -/
def found (r : Regex) (t : Text) : Bool := foundFrom r [] 0 t

end Regex

end Maskwalk

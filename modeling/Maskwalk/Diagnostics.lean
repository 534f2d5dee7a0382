import Maskwalk.Engine.Memory

/-!
# Warnings and identifiers

A message is a template with arguments, filled when it is given. Without arguments it is taken as it
is, percent signs and all. A warning can be given once for a key: the first time it is given, and
later ones with the same key are not.

Identifiers are made by the world from names. The latest name that led to an identifier is
remembered, and when another name leads to the same identifier, a warning about the clash is given
once.

## Main definitions

* `messageText`: a message with its arguments.
* `warnOnce`, `hasWarned`: warnings that are given once.
* `identifierFor`, `nameOf`: identifiers, and the names they were made for.
-/

namespace Maskwalk

/-- A message with its arguments. A single mapping that is not empty gives them by name. -/
def messageText (template : Text) (arguments : List Value) : Act Text :=
  let filled : Except Template.Mistake Text :=
    match arguments with
    | [] => .ok template
    | [.map (field :: fields)] => Template.fill template (.mapping (field :: fields))
    | values => Template.fill template (.row values)
  match filled with
  | .ok text => return text
  | .error mistake => throw (.badTemplate mistake)

/-- Gives a warning. -/
def warn (template : Text) (arguments : List Value) : Act Unit := do
  Act.notice (.warned (← messageText template arguments))

/-- Reports an error. -/
def report (template : Text) (arguments : List Value) : Act Unit := do
  Act.notice (.reported (← messageText template arguments))

/-- Whether a warning has been given for a key. -/
def hasWarned (key : Text) : Act Bool := do return (← get).warned.elem key

/-- Gives a warning unless one was given for its key, and says whether it did. -/
def onceFor (key : Text) (give : Act Unit) : Act Bool := do
  if ← hasWarned key then return false
  else
    modify fun m => { m with warned := key :: m.warned }
    give
    return true

/-- Gives a warning with a template, once for its key. -/
def warnOnce (key template : Text) (arguments : List Value) : Act Bool :=
  onceFor key (warn template arguments)

/-- The latest name that led to an identifier. -/
def nameOf (identifier : Text) : Act (Option Text) := do
  return valueOf? identifier (← get).names

/-- An identifier, made from a name if one is given. -/
def identifierFor (name : Option Text) : Act Text := do
  let identifier ← Act.request (.identifier name)
  match name with
  | none => return identifier
  | some name =>
    let former ← nameOf identifier
    modify fun m => { m with names := withValue identifier name m.names }
    match former with
    | none => return identifier
    | some former =>
      if former ≠ name then
        let _ ← onceFor identifier (Act.notice (.clash former name))
      return identifier

end Maskwalk

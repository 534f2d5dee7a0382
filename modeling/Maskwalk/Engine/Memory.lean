import Maskwalk.Fault

/-!
# What a run remembers

Three things are remembered from one operation to the next: whether the host has wide words, once
that is known; which name the latest identifier of a kind was made for; and which warnings that are
given once have been given. An act is an attempt that can look at this memory and change it. What
it changed stays changed even if it ends in a fault.

## Main definitions

* `Memory`: what is remembered.
* `Act`: an attempt with a memory.
-/

namespace Maskwalk

/-- What is remembered between operations. -/
structure Memory where
  wideWords : Option Bool
  names : List (Text × Text)
  warned : List Text
  deriving DecidableEq, Repr

/-- The memory of a run that has not done anything. -/
def Memory.fresh : Memory := ⟨none, [], []⟩

/-- An attempt that can look at the memory and change it. -/
abbrev Act (α : Type) := ExceptT Fault (StateT Memory Inquiry) α

namespace Act

/-- An attempt that leaves the memory alone. -/
def attempt {α : Type} (a : Attempt α) : Act α :=
  ExceptT.mk fun m => a.run.bind fun result => .done (result, m)

/-- A single request. -/
def request (q : Request) : Act q.Reply := attempt (Attempt.request q)

/-- A single notice. -/
def notice (n : Notice) : Act Unit := attempt (Attempt.notice n)

/-- What an act comes to, starting from a memory. -/
def start {α : Type} (a : Act α) (m : Memory) : Inquiry (Except Fault α × Memory) :=
  a.run.run m

end Act

end Maskwalk

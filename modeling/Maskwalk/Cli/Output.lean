import Maskwalk.Engine.Memory

/-!
# Output

A command writes what it found while it is still at work, piece by piece. Whatever the output goes
to may refuse a piece: it may be full, or nobody may be there any more to read it, or it may have no
code for a character of a name, as there is none for a character that stands for a broken byte. What
was written before stays written, and the refusal is a fault.

So commands are more than acts. A job is an act that writes: a tree of requests and notices like an
inquiry, with one more kind of node for a piece to write, which has a branch for either answer.
`Writing.onto` puts the answers of a device in, and what is left of the tree is an inquiry.

## Main definitions

* `Device`: what output goes to.
* `Device.send`: pieces written up to the first that is refused.
* `Writing`, `Writing.onto`: computations that ask and write.
* `Job`: an act that writes.
* `Job.print`: lines printed.
-/

namespace Maskwalk

/-- What output goes to. To a piece that is to be written behind what was written before, it says
    why it does not take it, if it does not. -/
structure Device where
  refusal? : Text → Text → Option Text

namespace Device

/-- A device that takes everything. -/
def ready : Device := ⟨fun _ _ => none⟩

/-- A device that has codes for some characters only, and refuses a piece with any other in it. -/
def coded (hasCode : Char → Bool) (why : Text) : Device :=
  ⟨fun _ piece => if piece.all hasCode then none else some why⟩

/-- Pieces sent to a device one after the other: what is written in the end, and why the rest was
    not, if a piece was refused. -/
def send (d : Device) (written : Text) : List Text → Text × Option Text
  | [] => (written, none)
  | piece :: more =>
    match d.refusal? written piece with
    | none => d.send (written ++ piece) more
    | some why => (written, some why)

end Device

/-- A computation that puts requests to a world, says notices and writes pieces of text. It goes on
    from a piece by the reason why it was refused, if it was. -/
inductive Writing (α : Type) : Type where
  | done (result : α)
  | ask (request : Request) (next : request.Reply → Writing α)
  | say (notice : Notice) (next : Writing α)
  | write (piece : Text) (next : Option Text → Writing α)

namespace Writing

/-- One computation after another that depends on its result. -/
def bind {α β : Type} : Writing α → (α → Writing β) → Writing β
  | done a, f => f a
  | ask q next, f => ask q fun reply => bind (next reply) f
  | say n next, f => say n (bind next f)
  | write piece next, f => write piece fun refusal => bind (next refusal) f

instance : Monad Writing where
  pure := done
  bind := bind

/-- An inquiry writes nothing. -/
def ofInquiry {α : Type} : Inquiry α → Writing α
  | .done a => done a
  | .ask q next => ask q fun reply => ofInquiry (next reply)
  | .say n next => say n (ofInquiry next)

/-- What is left to ask once the output goes to a device, behind what was written before. The result
    comes with all that is written in the end. -/
def onto {α : Type} (d : Device) : Writing α → Text → Inquiry (α × Text)
  | done a, written => .done (a, written)
  | ask q next, written => .ask q fun reply => onto d (next reply) written
  | say n next, written => .say n (onto d next written)
  | write piece next, written =>
    match d.refusal? written piece with
    | none => onto d (next none) (written ++ piece)
    | some why => onto d (next (some why)) written

end Writing

/-- An act that writes. -/
abbrev Job (α : Type) := ExceptT Fault (StateT Memory Writing) α

namespace Job

/-- An act writes nothing. -/
def act {α : Type} (a : Act α) : Job α := ExceptT.mk fun m => Writing.ofInquiry (a.start m)

/-- An attempt neither writes nor looks at the memory. -/
def attempt {α : Type} (a : Attempt α) : Job α := act (Act.attempt a)

/-- A single notice. -/
def notice (n : Notice) : Job Unit := act (Act.notice n)

/-- What becomes of a job whose piece was taken or refused. -/
def taken (refusal : Option Text) : Except Fault Unit :=
  match refusal with
  | none => .ok ()
  | some why => .error (.failed (.other why))

/-- Writes a piece. If it is refused, that is a fault. -/
def write (piece : Text) : Job Unit :=
  ExceptT.mk fun m => .write piece fun refusal => .done (taken refusal, m)

/-- Writes pieces one after the other. -/
def writeAll : List Text → Job Unit
  | [] => return
  | piece :: more => do
    write piece
    writeAll more

/-- Lines in pieces: each line, and its end. -/
def piecesOf (lines : List Text) : List Text := lines.flatMap fun line => [line, ['\n']]

/-- Prints lines. -/
def print (lines : List Text) : Job Unit := writeAll (piecesOf lines)

/-- What a job comes to, starting from a memory. -/
def start {α : Type} (j : Job α) (m : Memory) : Writing (Except Fault α × Memory) := j.run.run m

end Job

end Maskwalk

import Maskwalk.Engine.Step
import Maskwalk.World.Keyed

/-!
# Sessions

A session is an engine at work: it has a world, and a memory that goes from each step to the next.
A step may end in a fault, which does not end the session. The path of scripts can be set in
between, and a new engine, with the same settings and a memory of its own, can take over the world.

On a world of keys the world itself can change between steps. A history is a list of all that
happens, and `Session.through` is the session after it.

## Main definitions

* `Session`: an engine with its memory and its world.
* `Session.perform`: a step in a session.
* `Event`, `Session.through`: histories over a world of keys.
-/

namespace Maskwalk

/-- An engine with its memory and its world, and what it was made from. -/
structure Session (σ : Type) where
  config : Config
  host : Host
  hostOs : Option Text
  engine : Engine
  memory : Memory
  world : σ

/-- What a step comes to: an answer or a fault, and the notices said. -/
structure Reply where
  result : Except Fault Answer
  notices : List Notice

namespace Session

/-- A session at its start. -/
def start {σ : Type} (config : Config) (host : Host) (hostOs : Option Text) (world : σ) :
    Except Regex.Problem (Session σ) :=
  (Engine.make config host hostOs).map fun engine =>
    { config, host, hostOs, engine, memory := .fresh, world }

/-- A step in a session. -/
def perform {σ : Type} [World σ] (s : Session σ) (step : Step) : Reply × Session σ :=
  let ran := ((step.perform s.engine).start s.memory).run s.world
  (⟨ran.result.1, ran.notices⟩, { s with memory := ran.result.2, world := ran.world })

/-- A session with another path of scripts. -/
def withScripts {σ : Type} (s : Session σ) (scripts : Option Text) : Session σ :=
  { s with engine := { s.engine with scripts } }

/-- A session in which a new engine has taken over the world. -/
def renewed {σ : Type} (s : Session σ) : Except Regex.Problem (Session σ) :=
  start s.config s.host s.hostOs s.world

end Session

/-- What can happen in a session on a world of keys. -/
inductive Event where
  | step (step : Step)
  | scripts (list : Option Text)
  | change (change : Keyed.Change)

namespace Session

/-- A session after an event. -/
def after (s : Session Keyed) : Event → Session Keyed
  | .step step => (s.perform step).2
  | .scripts list => s.withScripts list
  | .change change => { s with world := change.apply s.world }

/-- A session after a history. -/
def through (s : Session Keyed) (history : List Event) : Session Keyed :=
  history.foldl after s

end Session

end Maskwalk

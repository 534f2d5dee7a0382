import Maskwalk.Engine.Memory
import Maskwalk.Text.Lower

/-!
# Platforms

Which operating system the library acts for decides how libraries are named and where they are
looked for. The system it runs on has an identifier of its own, read off the name that the system
gives itself; a setting can put another identifier in its place. Identifiers are compared without
regard to case.

Whether a host has words of 64 bits is found out once. A world that says so is believed; otherwise
the name of the architecture decides, which every system tells in its own way. The answer is kept,
and later questions get the same one, whatever has changed since.

## Main definitions

* `Host`: what a host says about itself.
* `Host.distributionIn`: the distribution in the description of a system.
* `hostId`: the identifier of a system from its name.
* `Platform`: the system a run acts for.
* `Platform.hasWideWords`: whether the host has words of 64 bits.
* `PlatformInfo`: a description of a platform, and its text.
-/

namespace Maskwalk

/-- What a host says about itself. -/
structure Host where
  system : Text
  machine : Text
  release : Text
  distribution : Text

/-- The distribution in a description of a system, which is a text of lines such as `ID=debian`. -/
def Host.distributionIn (description : Text) : Text :=
  let values := (Text.lines description).filterMap (Text.afterHead "ID=".toList)
  Text.toLower ((values.head?.getD []).filter fun c => c ≠ '\x22' ∧ c ≠ '\x27')

/-- The identifier of the system that runs on Windows. -/
def windows : Text := "windows".toList

/-- System names that have an identifier of their own. -/
def systemIds : List (Text × Text) := [
  ("windows".toList, windows),
  ("darwin".toList, "macosx".toList),
  ("linux".toList, "linux".toList),
  ("freebsd".toList, "bsd".toList),
  ("netbsd".toList, "bsd".toList),
  ("openbsd".toList, "bsd".toList),
  ("dragonfly".toList, "bsd".toList),
  ("sunos".toList, "solaris".toList),
  ("haiku".toList, "haiku".toList),
  ("aix".toList, "aix".toList),
  ("gnu".toList, "hurd".toList)]

/-- Starts of the names of systems that are layers over Windows. -/
def windowsLayers : List Text := ["cygwin".toList, "msys".toList, "mingw".toList]

/-- The identifier of a system from its name: its name in lower case, unless it is a layer over
    Windows or has an identifier of its own. -/
def hostId (system : Text) : Text :=
  let name := Text.toLower system
  if windowsLayers.any fun start => start.isPrefixOf name then windows
  else (valueOf? name systemIds).getD name

/-- Parts of the names of architectures with words of 64 bits. -/
def wideArchitectures : List Text := [
  "x86_64".toList, "ia64".toList, "amd64".toList, "ppc64".toList, "powerpc64".toList,
  "sparc64".toList]

/-- The system a run acts for: that of the host, unless another identifier is set. -/
structure Platform where
  hostOs : Text
  override : Option Text
  host : Host

/-- A description of a platform. -/
structure PlatformInfo where
  os : Text
  arch : Text
  release : Text
  distribution : Text
  wideWords : Bool
  deriving DecidableEq, Repr

/-- The text of a description. -/
def PlatformInfo.text (i : PlatformInfo) : Text :=
  i.os ++ '-' :: i.arch
    ++ (if i.distribution = [] then [] else ' ' :: '(' :: i.distribution ++ [')'])
    ++ ' ' :: 'v' :: i.release
    ++ (if i.wideWords then " [64-bit]".toList else " [32-bit]".toList)

namespace Platform

/-- The platform of a host. An empty identifier counts as none. -/
def make (host : Host) (hostOs override : Option Text) : Platform :=
  let given := (hostOs.filter (· ≠ [])).getD (hostId host.system)
  { hostOs := given, override := override.filter (· ≠ []), host }

/-- The identifier of the system that a run acts for. -/
def osId (p : Platform) : Text := p.override.getD p.hostOs

/-- Whether a run acts for the system with an identifier. -/
def isOs (p : Platform) (id : Text) : Bool := Text.toLower p.osId = Text.toLower id

/-- The name of the architecture, as the host's system tells it. One that cannot be found out is
    empty. -/
def architecture (p : Platform) : Attempt Text := do
  if p.hostOs = windows then
    return (← Attempt.request (.variable "PROCESSOR_ARCHITECTURE".toList)).getD []
  else
    let command := if p.hostOs = "macosx".toList then "echo $HOSTTYPE".toList else "uname -m".toList
    match ← Attempt.request (.outputOf command) with
    | .ok name => return name
    | .error why =>
      if why.isRefusal then
        Attempt.notice (.noArchitecture why)
        return []
      else throw (.failed why)

/-- Whether the host has words of 64 bits, asked of the world. -/
def probeWideWords (p : Platform) : Attempt Bool := do
  if ← Attempt.request .hasWideWords then return true
  else
    let name := Text.toLower (← p.architecture)
    return wideArchitectures.any fun part => Text.occursIn part name

/-- Whether the host has words of 64 bits: what is known, or else what the world says. -/
def hasWideWords (p : Platform) : Act Bool := do
  match (← get).wideWords with
  | some known => return known
  | none =>
    let wide ← Act.attempt p.probeWideWords
    modify fun m => { m with wideWords := some wide }
    Act.notice (.wordSize wide)
    return wide

/-- A description of the platform. The distribution is that of the host's system and is told for
    Linux only. -/
def info (p : Platform) : Act PlatformInfo := do
  let wideWords ← p.hasWideWords
  return {
    os := p.osId, arch := Text.toLower p.host.machine, release := p.host.release
    distribution := if p.hostOs = "linux".toList then p.host.distribution else []
    wideWords }

end Platform

end Maskwalk

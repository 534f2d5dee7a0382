import Maskwalk.Proofs.Engine.History
import Maskwalk.Proofs.Engine.Running
import Maskwalk.Proofs.Search.Steady

/-!
# The first library that is there

A library is looked for under several names, and under each of them in several directories. The
names are those that the system gives to libraries, which is the system that a run acts for; the
directories come from a variable, from the linker's configuration and from lists of defaults, and
how their lists are split is a matter of the host. All this is settled before the first look. What
is left is one list of candidates, each name in all directories before the next name, and the search
goes through this list up to the first file that is there.

What a search looks for is told apart from all else that it asks, so that reading on the way does
not count. It is stated once, for inquiries that come to the same result whatever calls are
recorded; attempts and acts are such inquiries, and one after another looks for what both look
for.

## Main definitions

* `upToFirst`: the items of a list up to the first one of a kind.
* `Inquiry.Looks`, `Attempt.Looks`, `Act.Looks`: what an inquiry comes to and looks for.
* `Platform.libraryForms`, `Platform.libraryLists`: the names and the directories of libraries.
* `Session.libraryCandidates`: the paths at which a library can be.

## Theorems

* `Inquiry.Looks.bind`, `Attempt.Looks.bind`, `Act.Looks.bind`: One after another.
* `Searcher.firstFound_looks`: A search goes through its candidates in order.
* `Searcher.libraryRules_looks`: What is settled before it.
* `Session.findLibrary_first`: A search for a library finds the first candidate that is there.
-/

namespace Maskwalk

open Attempt (Reads)

section

variable {α : Type} (p : α → Bool)

/-- The items of a list up to the first one of a kind, and with it. -/
def upToFirst : List α → List α
  | [] => []
  | a :: more => if p a then [a] else a :: upToFirst more

/-- What comes behind another list counts only if nothing of the kind is in that. -/
theorem upToFirst_append (l more : List α) :
    upToFirst p (l ++ more) = upToFirst p l ++
      if (l.find? p).isSome then [] else upToFirst p more := by
  induction l with
  | nil => rfl
  | cons a l ih =>
      rw [List.cons_append, upToFirst, upToFirst]
      by_cases ha : p a = true
      · rw [if_pos ha, if_pos ha, List.find?_cons_of_pos ha]
        rfl
      · rw [if_neg ha, if_neg ha, List.find?_cons_of_neg ha, ih]
        rfl

end

namespace Inquiry

variable {α β : Type}

/-- An inquiry that comes to a result, leaves a world as it is but for the recorded calls, and looks
    for files at certain paths, whatever was recorded before. -/
structure Looks (i : Inquiry α) (w : Keyed) (x : α) (files : List Path) : Prop where
  result : ∀ calls, (i.run { w with calls }).result = x
  world : ∀ calls, ∃ calls', (i.run { w with calls }).world = { w with calls := calls' }
  files : ∀ calls, (i.asked { w with calls }).filterMap Request.filePath? = files

namespace Looks

theorem done (x : α) (w : Keyed) : Looks (.done x) w x [] :=
  ⟨fun _ => rfl, fun calls => ⟨calls, rfl⟩, fun _ => rfl⟩

/-- One inquiry after another looks for what both look for. -/
theorem bind {i : Inquiry α} {f : α → Inquiry β} {w : Keyed} {x : α} {y : β}
    {files files' : List Path} (hi : i.Looks w x files) (hf : (f x).Looks w y files') :
    (i.bind f).Looks w y (files ++ files') := by
  refine ⟨fun calls => ?_, fun calls => ?_, fun calls => ?_⟩
  · rcases hi.world calls with ⟨calls', hw⟩
    rw [run_bind]
    simp only
    rw [hi.result, hw]
    exact hf.result calls'
  · rcases hi.world calls with ⟨calls', hw⟩
    rw [run_bind]
    simp only
    rw [hi.result, hw]
    exact hf.world calls'
  · rcases hi.world calls with ⟨calls', hw⟩
    rw [asked_bind, hi.result, hw, List.filterMap_append, hi.files, hf.files]

end Looks

end Inquiry

namespace Attempt

variable {α β : Type}

/-- An attempt that comes to a result and looks for files. -/
def Looks (a : Attempt α) (w : Keyed) (x : α) (files : List Path) : Prop :=
  Inquiry.Looks a.run w (.ok x) files

namespace Looks

variable {w : Keyed}

theorem pure (x : α) : Looks (Pure.pure x) w x [] := Inquiry.Looks.done _ w

theorem notice (n : Notice) : Looks (Attempt.notice n) w () [] :=
  ⟨fun _ => rfl, fun calls => ⟨calls, rfl⟩, fun _ => rfl⟩

/-- A single request, to which the reply is known. -/
theorem request {q : Request} {reply : q.Reply}
    (h : ∀ calls, ∃ calls', q.settled { w with calls } = (reply, { w with calls := calls' })) :
    Looks (Attempt.request q) w reply q.normal.filePath?.toList := by
  refine ⟨fun calls => ?_, fun calls => ?_, fun calls => ?_⟩
  · rcases h calls with ⟨calls', hs⟩
    change Except.ok (q.settled _).1 = _
    rw [hs]
  · rcases h calls with ⟨calls', hs⟩
    refine ⟨calls', ?_⟩
    change (q.settled _).2 = _
    rw [hs]
  · change [q.normal].filterMap Request.filePath? = _
    cases hq : q.normal.filePath? with
    | none => exact List.filterMap_cons_none hq
    | some p => exact List.filterMap_cons_some hq

/-- An attempt that looks for no files, of which it is known what it comes to. -/
theorem run_of_blind {a : Attempt α} {post : α → Prop} {r : Except Fault α}
    (hblind : a.Keeps Terms.blind post) (ha : ∀ calls, Reads a { w with calls } r) :
    Inquiry.Looks a.run w r [] :=
  ⟨fun calls => (ha calls).result, fun calls => (ha calls).world, fun _ => hblind.no_files _⟩

theorem of_blind {a : Attempt α} {post : α → Prop} {x : α} (hblind : a.Keeps Terms.blind post)
    (ha : ∀ calls, Reads a { w with calls } (.ok x)) : Looks a w x [] :=
  run_of_blind hblind ha

theorem bind {a : Attempt α} {f : α → Attempt β} {x : α} {y : β} {files files' : List Path}
    (ha : a.Looks w x files) (hf : (f x).Looks w y files') :
    (a >>= f).Looks w y (files ++ files') := by
  change Inquiry.Looks (Inquiry.bind a.run (ExceptT.bindCont f)) w _ _
  rw [bindCont_eq_further]
  exact Inquiry.Looks.bind ha hf

/-- An attempt and what is made of its result. -/
theorem returned {a : Attempt α} {x : α} {files : List Path} (ha : a.Looks w x files)
    (f : α → β) : (a >>= fun x => Pure.pure (f x)).Looks w (f x) files := by
  have hboth : (a >>= fun x => Pure.pure (f x)).Looks w (f x) (files ++ []) := ha.bind (pure (f x))
  rw [List.append_nil] at hboth
  exact hboth

end Looks

end Attempt

namespace Act

variable {α β : Type}

/-- An act that comes to a result, with what is remembered after it, and looks for files. -/
def Looks (a : Act α) (m : Memory) (w : Keyed) (x : α) (m' : Memory) (files : List Path) : Prop :=
  Inquiry.Looks (a.start m) w (.ok x, m') files

namespace Looks

variable {m m' m'' : Memory} {w : Keyed}

theorem pure (x : α) : Looks (Pure.pure x) m w x m [] := Inquiry.Looks.done _ w

/-- An attempt leaves the memory alone. -/
theorem attempt {a : Attempt α} {x : α} {files : List Path} (ha : a.Looks w x files) :
    (Act.attempt a).Looks m w x m files := by
  have hboth := Inquiry.Looks.bind (f := fun r => .done (r, m)) ha (.done (Except.ok x, m) w)
  rw [List.append_nil] at hboth
  exact hboth

theorem bind {a : Act α} {f : α → Act β} {x : α} {y : β} {files files' : List Path}
    (ha : a.Looks m w x m' files) (hf : (f x).Looks m' w y m'' files') :
    (a >>= f).Looks m w y m'' (files ++ files') := by
  unfold Looks
  rw [start_bind]
  exact Inquiry.Looks.bind ha hf

/-- What looks for no file may come last. -/
theorem bind_last {a : Act α} {f : α → Act β} {x : α} {y : β} {files : List Path}
    (ha : a.Looks m w x m' files) (hf : (f x).Looks m' w y m'' []) :
    (a >>= f).Looks m w y m'' files := by
  have hboth := ha.bind hf
  rw [List.append_nil] at hboth
  exact hboth

/-- An act and what is made of its result. -/
theorem returned {a : Act α} {x : α} {files : List Path} (ha : a.Looks m w x m' files)
    (f : α → β) : (a >>= fun x => Pure.pure (f x)).Looks m w (f x) m' files :=
  ha.bind_last (pure (f x))

/-- A fault ends an act. -/
theorem bind_fault {a : Act α} {f : α → Act β} {fault : Fault} {files : List Path}
    (ha : Inquiry.Looks (a.start m) w (.error fault, m') files) :
    Inquiry.Looks ((a >>= f).start m) w (.error fault, m') files := by
  rw [start_bind, ← List.append_nil files]
  exact Inquiry.Looks.bind ha (Inquiry.Looks.done _ w)

theorem get : Looks (get : Act Memory) m w m m [] :=
  ⟨fun _ => rfl, fun calls => ⟨calls, rfl⟩, fun _ => rfl⟩

theorem modify (f : Memory → Memory) : Looks (modify f : Act PUnit) m w ⟨⟩ (f m) [] :=
  ⟨fun _ => rfl, fun calls => ⟨calls, rfl⟩, fun _ => rfl⟩

theorem notice (n : Notice) : Looks (Act.notice n) m w () m [] := attempt (.notice n)

end Looks

end Act

namespace Platform

variable (p : Platform)

/-- Whether the linker's configuration says where libraries are. -/
def readsLinkerConf : Bool :=
  !p.isOs windows && !p.isOs "haiku".toList && !p.isOs "macosx".toList

/-- Whether libraries are in the default places too. -/
def hasCommonDirs : Bool := !p.isOs windows && !p.isOs "haiku".toList

/-- The variable that says where libraries are. -/
def libraryVariable : Text :=
  if p.isOs windows then "PATH".toList
  else if p.isOs "haiku".toList then "LIBRARY_PATH".toList
  else if p.isOs "macosx".toList then "DYLD_LIBRARY_PATH".toList
  else "LD_LIBRARY_PATH".toList

/-- What stands around the name of a library, form after form. -/
def libraryForms : List (Text × Text) :=
  if p.isOs windows then [([], ".dll".toList), ([], [])]
  else if p.isOs "haiku".toList then soForms
  else if p.isOs "macosx".toList then
    [("lib".toList, ".dylib".toList), ([], ".dylib".toList), ([], [])]
  else soForms ++ [([], [])]

/-- Where libraries are, once it is known what the variable holds, which lines the linker's
    configuration has, and whether words are wide. -/
def libraryLists (set : Option Text) (lines : List Text) (wide : Bool) : List (Option Text) :=
  set :: (if p.readsLinkerConf then lines.map some else []) ++
    if p.hasCommonDirs then (if wide then [some wideLibraryDirs] else []) ++ [some libraryDirs]
    else []

end Platform

/-- The names that a library can have. -/
def libraryNames (forms : List (Text × Text)) (name : Text) : List Path :=
  forms.map fun (front, back) => front ++ name ++ back

/-- The paths of several names in several directories: each name in all directories before the next
    name. -/
def namedIn (dirs names : List Path) : List Path :=
  names.flatMap fun name => dirs.map (Path.join · name)

/-- Whether there is a file at a path. -/
def Keyed.sees (w : Keyed) (p : Path) : Bool := w.hasFile (Path.normalize p)

/-- What a command writes. -/
def Keyed.written (w : Keyed) (command : Text) : Except Failure Text :=
  if w.shellFails then .error (.other "no shell".toList)
  else .ok ((valueOf? command w.outputs).getD [])

section

open Attempt (Looks)

variable (p : Platform) (w : Keyed)

theorem outputOf_looks (command : Text) :
    Looks (Attempt.request (.outputOf command)) w (w.written command) [] := by
  refine Looks.request fun calls => ?_
  change ∃ calls', (if w.shellFails then _ else _) = (_, _)
  unfold Keyed.written
  split
  · exact ⟨calls, rfl⟩
  · exact ⟨.outputOf command :: calls, rfl⟩

theorem isFile_looks (f : Path) :
    Looks (Attempt.request (.isFile f)) w (w.sees f) [Path.normalize f] :=
  Looks.request fun calls => ⟨.isFile (Path.normalize f) :: calls, rfl⟩

theorem variable_looks (name : Text) :
    Looks (Attempt.request (.variable name)) w (valueOf? name w.environment) [] :=
  Looks.request fun calls => ⟨calls, rfl⟩

/-- The name of an architecture is always found out, even if it is empty. -/
theorem Platform.architecture_looks : ∃ name, p.architecture.Looks w name [] := by
  unfold Platform.architecture
  split
  · exact ⟨_, (variable_looks w _).bind (Looks.pure _)⟩
  · have hrun := outputOf_looks w
      (if p.hostOs = "macosx".toList then "echo $HOSTTYPE".toList else "uname -m".toList)
    unfold Keyed.written at hrun
    cases hs : w.shellFails with
    | true =>
        rw [hs, if_pos rfl] at hrun
        exact ⟨[], hrun.bind ((Looks.notice _).bind (Looks.pure _))⟩
    | false =>
        rw [hs, if_neg Bool.false_ne_true] at hrun
        exact ⟨_, hrun.bind (Looks.pure _)⟩

theorem Platform.probeWideWords_looks : ∃ wide, p.probeWideWords.Looks w wide [] := by
  have hasked : Looks (Attempt.request .hasWideWords) w w.wideWords [] :=
    Looks.request fun calls => ⟨.hasWideWords :: calls, rfl⟩
  cases hw : w.wideWords with
  | true =>
      rw [hw] at hasked
      exact ⟨true, hasked.bind (Looks.pure true)⟩
  | false =>
      rw [hw] at hasked
      rcases p.architecture_looks w with ⟨name, hname⟩
      exact ⟨_, hasked.bind (hname.bind (Looks.pure _))⟩

/-- Whether words are wide is known or found out, and is known from then on. -/
theorem Platform.hasWideWords_remembers (m : Memory) :
    ∃ wide, (∀ known, m.wideWords = some known → wide = known) ∧
      Act.Looks p.hasWideWords m w wide { m with wideWords := some wide } [] := by
  cases hm : m.wideWords with
  | some known =>
      have hsame : { m with wideWords := some known } = m := by rw [← hm]
      refine ⟨known, fun _ h => Option.some.inj h, ?_⟩
      rw [hsame]
      refine Act.Looks.get.bind ?_
      rw [hm]
      exact Act.Looks.pure known
  | none =>
      rcases p.probeWideWords_looks w with ⟨wide, hwide⟩
      refine ⟨wide, fun known h => absurd h (by simp), Act.Looks.get.bind ?_⟩
      rw [hm]
      refine (Act.Looks.attempt hwide).bind ?_
      exact (Act.Looks.modify _).bind ((Act.Looks.notice _).bind (Act.Looks.pure wide))

theorem Platform.hasWideWords_looks (m : Memory) :
    ∃ wide m', Act.Looks p.hasWideWords m w wide m' [] := by
  rcases p.hasWideWords_remembers w m with ⟨wide, _, hlooks⟩
  exact ⟨wide, _, hlooks⟩

end

theorem searchIn_looks (w : Keyed) (name : Path) (dirs : List Path) :
    Attempt.Looks (searchIn name dirs) w (dirs.find? fun dir => w.sees (Path.join dir name))
      ((upToFirst w.sees (dirs.map (Path.join · name))).map Path.normalize) := by
  induction dirs with
  | nil => exact Attempt.Looks.pure none
  | cons dir more ih =>
      have hlook := isFile_looks w (Path.join dir name)
      rw [List.find?_cons, List.map_cons, upToFirst]
      cases hs : w.sees (Path.join dir name) with
      | true =>
          rw [hs] at hlook
          exact hlook.bind ((Attempt.Looks.notice _).bind (Attempt.Looks.pure (some dir)))
      | false =>
          rw [hs] at hlook
          exact hlook.bind ih

/-- A name in several directories is a list of candidates in front of those that are tried next. -/
theorem searchIn_or_looks {w : Keyed} {next : Attempt (Option Path)} {rest : List Path}
    (name : Path) (dirs : List Path) (hnext : Attempt.Looks next w (rest.find? w.sees)
      ((upToFirst w.sees rest).map Path.normalize)) :
    Attempt.Looks (searchIn name dirs >>= fun found =>
        match found with
        | some dir => pure (some (Path.join dir name))
        | none => next) w
      ((dirs.map (Path.join · name) ++ rest).find? w.sees)
      ((upToFirst w.sees (dirs.map (Path.join · name) ++ rest)).map Path.normalize) := by
  have hsearch := searchIn_looks w name dirs
  have hfirst : (dirs.map (Path.join · name)).find? w.sees =
      (dirs.find? fun dir => w.sees (Path.join dir name)).map (Path.join · name) := List.find?_map
  rw [List.find?_append, upToFirst_append, List.map_append, hfirst]
  cases hd : dirs.find? fun dir => w.sees (Path.join dir name) with
  | some dir =>
      rw [hd] at hsearch
      exact hsearch.bind (Attempt.Looks.pure (some (Path.join dir name)))
  | none =>
      rw [hd] at hsearch
      exact hsearch.bind hnext

namespace Searcher

variable (s : Searcher) (w : Keyed)

/-- A search for several names goes through their candidates up to the first that is there. -/
theorem firstFound_looks (lists : List (Option Text)) (names : List Path) :
    Attempt.Looks (s.firstFound lists names) w
      ((namedIn (splitLists s.onWindows lists) names).find? w.sees)
      ((upToFirst w.sees (namedIn (splitLists s.onWindows lists) names)).map Path.normalize) := by
  induction names with
  | nil => exact Attempt.Looks.pure none
  | cons name more ih =>
      rw [namedIn, List.flatMap_cons]
      exact searchIn_or_looks name _ ih

/-- The default places, as far as words are wide. -/
theorem commonDirs_looks (m m' : Memory) (wide : Bool)
    (hwide : Act.Looks s.platform.hasWideWords m w wide m' []) :
    Act.Looks s.commonDirs m w
      ((if wide then [some wideLibraryDirs] else []) ++ [some libraryDirs]) m' [] := by
  refine hwide.bind ?_
  cases wide with
  | true => exact Act.Looks.pure _
  | false => exact Act.Looks.pure _

/-- What is settled before the first look. The size of words is settled with it where there are
    default places. -/
theorem libraryRules_remembers (m m' : Memory) (lines : List Text) (wide : Bool)
    (hlines : s.platform.readsLinkerConf = true →
      ∀ calls, Reads (linkerDirs s.matcher s.linkerConf) { w with calls } (.ok lines))
    (hwide : Act.Looks s.platform.hasWideWords m w wide m' []) :
    Act.Looks s.libraryRules m w
      ⟨s.platform.libraryForms, s.platform.libraryLists
        (valueOf? s.platform.libraryVariable w.environment) lines wide⟩
      (if s.platform.hasCommonDirs then m' else m) [] := by
  have hset : ∀ name,
      Act.Looks (variableValue name) m w (valueOf? name.toList w.environment) m [] :=
    fun name => Act.Looks.attempt (variable_looks w _)
  have hcommon := s.commonDirs_looks w m m' wide hwide
  unfold libraryRules Platform.libraryForms Platform.libraryLists Platform.libraryVariable
    Platform.hasCommonDirs
  unfold Platform.readsLinkerConf at hlines ⊢
  cases hwindows : s.platform.isOs windows with
  | true => exact (hset _).bind (Act.Looks.pure _)
  | false =>
      cases hhaiku : s.platform.isOs "haiku".toList with
      | true => exact (hset _).bind (Act.Looks.pure _)
      | false =>
          cases hmac : s.platform.isOs "macosx".toList with
          | true => exact (hset _).bind (hcommon.bind (Act.Looks.pure _))
          | false =>
              have hread := Attempt.Looks.of_blind
                (linkerDirs_keeps Terms.blind_allowsReading.listing s.matcher s.linkerConf)
                (hlines (by rw [hwindows, hhaiku, hmac]; rfl))
              refine (hset _).bind ((Act.Looks.attempt hread).bind ?_)
              exact hcommon.bind (Act.Looks.pure _)

theorem libraryRules_looks (m m' : Memory) (lines : List Text) (wide : Bool)
    (hlines : s.platform.readsLinkerConf = true →
      ∀ calls, Reads (linkerDirs s.matcher s.linkerConf) { w with calls } (.ok lines))
    (hwide : Act.Looks s.platform.hasWideWords m w wide m' []) :
    ∃ m'', Act.Looks s.libraryRules m w
      ⟨s.platform.libraryForms, s.platform.libraryLists
        (valueOf? s.platform.libraryVariable w.environment) lines wide⟩ m'' [] :=
  ⟨_, s.libraryRules_remembers w m m' lines wide hlines hwide⟩

/-- A search for a library goes through its candidates up to the first that is there. -/
theorem findLibrary_looks (m m' : Memory) (name : Text) (rules : LibraryRules)
    (hrules : Act.Looks s.libraryRules m w rules m' []) :
    let candidates := namedIn (splitLists s.onWindows rules.lists) (libraryNames rules.forms name)
    Act.Looks (s.findLibrary name) m w (candidates.find? w.sees) m'
      ((upToFirst w.sees candidates).map Path.normalize) := by
  have hfound := s.firstFound_looks w rules.lists (libraryNames rules.forms name)
  simp only
  generalize namedIn _ _ = candidates at hfound ⊢
  refine hrules.bind ((Act.Looks.attempt hfound).bind_last ?_)
  cases candidates.find? w.sees with
  | some file => exact Act.Looks.pure (some file)
  | none => exact (Act.Looks.notice _).bind (Act.Looks.pure none)

/-- If reading the linker's configuration ends in a fault, so does the search, before the first
    look. -/
theorem findLibrary_fault (m : Memory) (name : Text) (fault : Fault)
    (hreads : s.platform.readsLinkerConf = true)
    (hfault : ∀ calls, Reads (linkerDirs s.matcher s.linkerConf) { w with calls } (.error fault)) :
    Inquiry.Looks ((s.findLibrary name).start m) w (.error fault, m) [] := by
  have hread := Inquiry.Looks.bind (f := fun r => .done (r, m)) (Attempt.Looks.run_of_blind
    (linkerDirs_keeps Terms.blind_allowsReading.listing s.matcher s.linkerConf) hfault) (.done _ w)
  have hrules : Inquiry.Looks (s.libraryRules.start m) w (.error fault, m) [] := by
    unfold Platform.readsLinkerConf at hreads
    simp only [Bool.and_eq_true, Bool.not_eq_true'] at hreads
    rcases hreads with ⟨⟨hwindows, hhaiku⟩, hmac⟩
    unfold libraryRules
    simp only [hwindows, hhaiku, hmac, Bool.false_eq_true, if_false]
    rw [Act.start_bind]
    exact Inquiry.Looks.bind (Act.Looks.attempt (variable_looks w _)) (Act.Looks.bind_fault hread)
  exact Act.Looks.bind_fault hrules

end Searcher

namespace Session

variable (s : Session Keyed)

/-- A step that is an act comes to what the act does, and looks for the same files. -/
theorem perform_of_looks (step : Step) (x : Answer) (m' : Memory) (files : List Path)
    (h : (step.perform s.engine).Looks s.memory s.world x m' files) :
    (s.perform step).1.result = .ok x ∧
      (s.asked step).filterMap Request.filePath? = files ∧
      ∃ calls, (s.perform step).2.world = { s.world with calls } :=
  ⟨congrArg Prod.fst (h.result s.world.calls), h.files s.world.calls, h.world s.world.calls⟩

theorem linkerDirs_answer (file : Path) (r : Except Fault (List Text))
    (h : Reads (linkerDirs s.engine.matcher file) s.world r) :
    (s.perform (.linkerDirs file)).1.result = r.map .texts := by
  rw [s.perform_of_attempt _ _ rfl]
  simp only
  rw [Attempt.result_bind, h.result]
  cases r with
  | ok lines => rfl
  | error fault => rfl

/-- The lines of the linker's configuration, if they matter and reading them ends. -/
theorem exists_linkerLines
    (hends : s.engine.platform.readsLinkerConf = true →
      (s.perform (.linkerDirs s.engine.linkerConf)).1.result ≠ .error .endless) :
    ∃ lines, s.engine.platform.readsLinkerConf = true →
      (∀ calls, Reads (linkerDirs s.engine.matcher s.engine.linkerConf)
        { s.world with calls } (.ok lines)) ∧
      (s.perform (.linkerDirs s.engine.linkerConf)).1.result = .ok (.texts lines) := by
  rcases linkerDirs_steady s.engine.matcher s.world s.engine.linkerConf with ⟨r, hr, hfault⟩
  have hresult := s.linkerDirs_answer _ r (hr s.world.calls)
  cases r with
  | ok lines => exact ⟨lines, fun _ => ⟨hr, hresult⟩⟩
  | error fault =>
      refine ⟨[], fun hreads => absurd hresult ?_⟩
      rw [hfault fault rfl]
      exact hends hreads

/-- The paths at which a library can be, in the order in which they are tried. -/
def libraryCandidates (name : Text) (lines : List Text) (wide : Bool) : List Path :=
  let platform := s.engine.platform
  let set := valueOf? platform.libraryVariable s.world.environment
  namedIn (splitLists s.engine.searcher.onWindows (platform.libraryLists set lines wide))
    (libraryNames platform.libraryForms name)

/-- A search for a library in a world where reading the linker's configuration ends, if it is read
    at all: with the lines of that configuration and what is known of the size of words, it comes to
    the first candidate at which there is a file, or to nothing if there is none. It looks for files
    at the candidates up to that one, in their order, and nowhere else; and what it comes to is a
    file afterwards. -/
theorem findLibrary_first (name : Text)
    (hends : s.engine.platform.readsLinkerConf = true →
      (s.perform (.linkerDirs s.engine.linkerConf)).1.result ≠ .error .endless) :
    ∃ lines wide,
      (s.engine.platform.readsLinkerConf = true →
        (s.perform (.linkerDirs s.engine.linkerConf)).1.result = .ok (.texts lines)) ∧
      (s.perform .hasWideWords).1.result = .ok (.flag wide) ∧
      (s.perform (.findLibrary name)).1.result =
        .ok (.perhaps ((s.libraryCandidates name lines wide).find? s.world.sees)) ∧
      (s.asked (.findLibrary name)).filterMap Request.filePath? =
        (upToFirst s.world.sees (s.libraryCandidates name lines wide)).map Path.normalize ∧
      ∀ file, (s.perform (.findLibrary name)).1.result = .ok (.perhaps (some file)) →
        ((s.perform (.findLibrary name)).2.perform (.isFile file)).1.result = .ok (.flag true) := by
  rcases s.exists_linkerLines hends with ⟨lines, hlines⟩
  rcases s.engine.platform.hasWideWords_looks s.world s.memory with ⟨wide, m', hwide⟩
  rcases s.engine.searcher.libraryRules_looks s.world s.memory m' lines wide
    (fun hreads => (hlines hreads).1) hwide with ⟨m'', hrules⟩
  have hsearch : (Step.perform s.engine (.findLibrary name)).Looks s.memory s.world
      (.perhaps ((s.libraryCandidates name lines wide).find? s.world.sees)) m''
      ((upToFirst s.world.sees (s.libraryCandidates name lines wide)).map Path.normalize) :=
    (s.engine.searcher.findLibrary_looks s.world s.memory m'' name _ hrules).returned
      Answer.perhaps
  have hsize : (Step.perform s.engine .hasWideWords).Looks s.memory s.world (.flag wide) m' [] :=
    hwide.returned Answer.flag
  rcases s.perform_of_looks _ _ _ _ hsearch with ⟨hresult, hasked, calls, hworld⟩
  rcases s.perform_of_looks _ _ _ _ hsize with ⟨hflag, _⟩
  refine ⟨lines, wide, fun hreads => (hlines hreads).2, hflag, hresult, hasked, ?_⟩
  intro file hfile
  -- Nothing has changed but the record of calls, so what was seen is still there.
  have hfound : (s.libraryCandidates name lines wide).find? s.world.sees = some file :=
    Answer.perhaps.inj (Except.ok.inj (hresult.symm.trans hfile))
  have hsees : s.world.sees file = true := List.find?_some hfound
  rw [isFile_answer, hworld]
  exact congrArg (fun seen => Except.ok (Answer.flag seen)) hsees

/-- A session in a world that keeps a library where a file says that the linker's configuration
    includes. -/
def onShelves : Session Keyed := {
  onGrove with
  engine := { onGrove.engine with linkerConf := "/c".toList }
  world := {
    ((Keyed.bare.addFile "/c".toList "include d".toList).addFile "/d".toList "/q".toList).addFile
      "/q/z.so".toList [] with
    environment := [("LD_LIBRARY_PATH".toList, "/p:;/r".toList)] } }

theorem findLibrary_first_shelves :
    (onShelves.perform (.linkerDirs onShelves.engine.linkerConf)).1.result ≠ .error .endless ∧
    ∃ lines wide,
      (onShelves.engine.platform.readsLinkerConf = true →
        (onShelves.perform (.linkerDirs onShelves.engine.linkerConf)).1.result
          = .ok (.texts lines)) ∧
      (onShelves.perform .hasWideWords).1.result = .ok (.flag wide) ∧
      (onShelves.perform (.findLibrary ['z'])).1.result =
        .ok (.perhaps ((onShelves.libraryCandidates ['z'] lines wide).find?
          onShelves.world.sees)) ∧
      (onShelves.asked (.findLibrary ['z'])).filterMap Request.filePath? =
        (upToFirst onShelves.world.sees (onShelves.libraryCandidates ['z'] lines wide)).map
          Path.normalize ∧
      ∀ file, (onShelves.perform (.findLibrary ['z'])).1.result = .ok (.perhaps (some file)) →
        ((onShelves.perform (.findLibrary ['z'])).2.perform (.isFile file)).1.result
          = .ok (.flag true) := by
  have hends : (onShelves.perform (.linkerDirs onShelves.engine.linkerConf)).1.result ≠
      .error .endless := by decide
  exact ⟨hends, onShelves.findLibrary_first ['z'] fun _ => hends⟩

-- The first name is tried everywhere, and the second up to the directory with the library.
set_option maxRecDepth 4000 in
example : (onShelves.perform (.findLibrary ['z'])).1.result
      = .ok (.perhaps (some "/q/z.so".toList)) ∧
    (onShelves.asked (.findLibrary ['z'])).filterMap Request.filePath? = [
      "/p/libz.so".toList, "/r/libz.so".toList, "/q/libz.so".toList, "/lib/libz.so".toList,
      "/usr/lib/libz.so".toList, "/usr/local/lib/libz.so".toList, "/p/z.so".toList,
      "/r/z.so".toList, "/q/z.so".toList] := by decide

end Session

end Maskwalk

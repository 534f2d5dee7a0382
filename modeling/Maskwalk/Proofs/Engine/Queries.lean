import Maskwalk.Engine.Step
import Maskwalk.Proofs.Walk.Keeping

/-!
# Queries

Most steps of an engine only look at the world: they match masks, search along paths, ask for the
platform, give warnings, run commands. None of these asks for a change of the tree. This is read off
the programs one by one, a search from what it is made of, and comes together in
`Step.perform_quiet`. Some of what a search for a library is made of does not look for files either.

## Main definitions

* `Act.Closed`: kinds of acts to which an act belongs if its parts do.
* `Step.isQuery`: steps that only look at the world.

## Theorems

* `linkerDirs_keeps`, `Searcher.firstFound_keeps`, `Platform.probeWideWords_keeps`: What is read
  and looked for on the way.
* `Act.Closed.findLibrary`, `Act.Closed.identifierFor`: What acts are made of.
* `Searcher.findLibrary_quiet`, `Searcher.locate_quiet`: Searches.
* `Step.perform_quiet`: Queries ask for no change.
-/

namespace Maskwalk

section

open Attempt

section

variable {t : Terms}

/-- A search along directories keeps all terms that allow looking for files. -/
theorem searchIn_keeps (ht : ∀ p, t.may (.isFile p)) (name : Path) (dirs : List Path) :
    (searchIn name dirs).Keeps t fun _ => True := by
  induction dirs with
  | nil => exact Keeps.pure trivial
  | cons dir more ih =>
      refine Keeps.bind (Keeps.request (ht _) fun _ _ => trivial) fun isThere (_ : True) => ?_
      split
      · exact Keeps.bind (Keeps.notice trivial) fun _ (_ : True) => Keeps.pure trivial
      · exact ih

theorem Searcher.firstFound_keeps (ht : ∀ p, t.may (.isFile p)) (s : Searcher)
    (lists : List (Option Text)) (names : List Path) :
    (s.firstFound lists names).Keeps t fun _ => True := by
  induction names with
  | nil => exact Keeps.pure trivial
  | cons name more ih =>
      refine Keeps.bind (searchIn_keeps ht name _) fun found _ => ?_
      cases found with
      | some dir => exact Keeps.pure trivial
      | none => exact ih

theorem collect_keeps {α : Type} (step : α → List Path → Attempt (List Text × List Path))
    (hstep : ∀ item seen, (step item seen).Keeps t fun _ => True) (items : List α) :
    ∀ seen, (collect step items seen).Keeps t fun _ => True := by
  induction items with
  | nil => exact fun seen => Keeps.pure trivial
  | cons item more ih =>
      intro seen
      refine Keeps.bind (hstep item seen) fun first _ => ?_
      exact Keeps.bind (ih first.2) fun others _ => Keeps.pure trivial

section

variable (ht : t.AllowsListing)

include ht

theorem included_keeps (m : Matcher) (file mask : Path) :
    (included m file mask).Keeps t fun _ => True := by
  refine Keeps.bind (m.matching_listing ht _ true none none).caught fun result _ => ?_
  split
  · exact Keeps.pure trivial
  · exact Keeps.bind (Keeps.notice trivial) fun _ (_ : True) => Keeps.pure trivial
  · exact Keeps.throw _

theorem linkerDirsFrom_keeps (m : Matcher) (depth : Nat) :
    ∀ file seen, (linkerDirsFrom m depth file seen).Keeps t fun _ => True := by
  have hsaid : ∀ (n : Notice) (found : List Text × List Path),
      (Attempt.notice n >>= fun _ => Pure.pure found).Keeps t fun _ => True :=
    fun _ _ => Keeps.bind (Keeps.notice trivial) fun _ (_ : True) => Keeps.pure trivial
  induction depth with
  | zero => exact fun _ _ => Keeps.throw _
  | succ depth ih =>
      intro file seen
      rw [linkerDirsFrom]
      simp only
      split
      · exact Keeps.pure trivial
      refine Keeps.bind (Keeps.request (ht.readText _) fun _ _ => trivial)
        fun reply (_ : True) => ?_
      split
      · exact Keeps.throw _
      · exact hsaid _ _
      · refine collect_keeps _ (fun line seen => ?_) _ _
        split
        · exact Keeps.pure trivial
        · exact Keeps.pure trivial
        · exact hsaid _ _
        · exact Keeps.bind (included_keeps ht m _ _) fun files _ => collect_keeps _ ih files seen

/-- Reading the linker's configuration keeps all terms that allow listing. -/
theorem linkerDirs_keeps (m : Matcher) (file : Path) :
    (linkerDirs m file).Keeps t fun _ => True := by
  refine Keeps.bind (Keeps.request ht.depth fun _ _ => trivial) fun depth (_ : True) => ?_
  exact Keeps.bind (linkerDirsFrom_keeps ht m _ file []) fun _ _ => Keeps.pure trivial

end

section

variable (ht : t.AllowsReading)

include ht

theorem Platform.architecture_keeps (p : Platform) : p.architecture.Keeps t fun _ => True := by
  unfold Platform.architecture
  split
  · exact Keeps.bind (Keeps.request (ht _ rfl rfl) fun _ _ => trivial) fun _ (_ : True) =>
      Keeps.pure trivial
  refine Keeps.bind (Keeps.request (ht _ rfl rfl) fun _ _ => trivial) fun reply (_ : True) => ?_
  cases reply with
  | ok name => exact Keeps.pure trivial
  | error why =>
      simp only
      split
      · exact Keeps.bind (Keeps.notice trivial) fun _ (_ : True) => Keeps.pure trivial
      · exact Keeps.throw _

/-- Asking for the size of words keeps all terms that allow reading. -/
theorem Platform.probeWideWords_keeps (p : Platform) :
    p.probeWideWords.Keeps t fun _ => True := by
  refine Keeps.bind (Keeps.request (ht _ rfl rfl) fun _ _ => trivial) fun wide (_ : True) => ?_
  split
  · exact Keeps.pure trivial
  · exact Keeps.bind (p.architecture_keeps ht) fun name _ => Keeps.pure trivial

end

end

theorem searchIn_quiet (name : Path) (dirs : List Path) : (searchIn name dirs).Quiet :=
  searchIn_keeps (fun _ => rfl) name dirs

theorem linkerDirs_quiet (m : Matcher) (file : Path) : (linkerDirs m file).Quiet :=
  linkerDirs_keeps Terms.quiet_allowsReading.listing m file

theorem Platform.probeWideWords_quiet (p : Platform) : p.probeWideWords.Quiet :=
  p.probeWideWords_keeps Terms.quiet_allowsReading

namespace Searcher

theorem firstFound_quiet (s : Searcher) (lists : List (Option Text)) (names : List Path) :
    (s.firstFound lists names).Quiet :=
  s.firstFound_keeps (fun _ => rfl) lists names

theorem locate_quiet (s : Searcher) (names : List Path) : (s.locate names).Quiet := by
  induction names with
  | nil => exact Quiet.pure none
  | cons name more ih =>
      refine Quiet.bind (Quiet.request rfl) fun isThere => ?_
      split
      · exact Quiet.pure _
      refine Quiet.bind (Quiet.request rfl) fun set => ?_
      refine Quiet.bind (Quiet.request rfl) fun program => ?_
      refine Quiet.bind (searchIn_quiet name _) fun found => ?_
      cases found with
      | some dir => exact Quiet.pure _
      | none => exact ih

end Searcher

namespace Engine

theorem execute_quiet (command : Text) : (execute command).Quiet :=
  Quiet.bind (Quiet.notice _) fun _ =>
    Quiet.bind (Quiet.request rfl) fun reply => Quiet.orFail reply

theorem outputOf_quiet (command : Text) : (outputOf command).Quiet :=
  Quiet.bind (Quiet.notice _) fun _ =>
    Quiet.bind (Quiet.request rfl) fun reply => Quiet.orFail reply

theorem commandText_quiet (template : Text) (arguments : List Value) :
    (commandText template arguments).Quiet := by
  unfold commandText
  split
  · exact Quiet.pure _
  split
  · exact Quiet.pure _
  · exact Quiet.throw _

end Engine

end

section

open Act

theorem Platform.hasWideWords_quiet (p : Platform) : p.hasWideWords.Quiet := by
  refine Quiet.bind Quiet.get fun memory => ?_
  split
  · exact Quiet.pure _
  refine Quiet.bind (Quiet.attempt p.probeWideWords_quiet) fun wide => ?_
  refine Quiet.bind (Quiet.modify _) fun _ => ?_
  exact Quiet.bind (Quiet.notice _) fun _ => Quiet.pure wide

theorem Platform.info_quiet (p : Platform) : p.info.Quiet :=
  Quiet.bind p.hasWideWords_quiet fun _ => Quiet.pure _

/-- A kind of acts to which an act belongs if all that it is made of does. -/
structure Act.Closed (kind : {α : Type} → Act α → Prop) : Prop where
  pure : ∀ {α : Type} (x : α), kind (Pure.pure x)
  throw : ∀ {α : Type} (fault : Fault), kind (throw fault : Act α)
  bind : ∀ {α β : Type} {a : Act α} {f : α → Act β}, kind a → (∀ x, kind (f x)) → kind (a >>= f)

namespace Act.Closed

variable {kind : {α : Type} → Act α → Prop} (h : Closed kind)

include h

section

variable (s : Searcher) (hwide : kind s.platform.hasWideWords)

include hwide

theorem commonDirs : kind s.commonDirs := by
  refine h.bind hwide fun wide => ?_
  split
  · exact h.pure _
  · exact h.pure _

variable (hvariable : ∀ name, kind (Searcher.variableValue name))
  (hlines : kind (Act.attempt (linkerDirs s.matcher s.linkerConf)))

include hvariable hlines

theorem libraryRules : kind s.libraryRules := by
  unfold Searcher.libraryRules
  split
  · exact h.bind (hvariable _) fun _ => h.pure _
  split
  · exact h.bind (hvariable _) fun _ => h.pure _
  split
  · refine h.bind (hvariable _) fun _ => ?_
    exact h.bind (h.commonDirs s hwide) fun _ => h.pure _
  · refine h.bind (hvariable _) fun _ => ?_
    refine h.bind hlines fun _ => ?_
    exact h.bind (h.commonDirs s hwide) fun _ => h.pure _

/-- What a search for a library is made of. -/
theorem findLibrary (hfound : ∀ lists names, kind (Act.attempt (s.firstFound lists names)))
    (hnotice : ∀ n, kind (Act.notice n)) (name : Text) : kind (s.findLibrary name) := by
  refine h.bind (h.libraryRules s hwide hvariable hlines) fun rules => ?_
  refine h.bind (hfound _ _) fun found => ?_
  split
  · exact h.pure _
  · exact h.bind (hnotice _) fun _ => h.pure none

end

theorem messageText (template : Text) (arguments : List Value) :
    kind (Maskwalk.messageText template arguments) := by
  unfold Maskwalk.messageText
  simp only
  split
  · exact h.pure _
  · exact h.throw _

variable (hnotice : ∀ n, kind (Act.notice n))

include hnotice

theorem warn (template : Text) (arguments : List Value) : kind (Maskwalk.warn template arguments) :=
  h.bind (h.messageText template arguments) fun _ => hnotice _

theorem report (template : Text) (arguments : List Value) :
    kind (Maskwalk.report template arguments) :=
  h.bind (h.messageText template arguments) fun _ => hnotice _

section

-- Names and warnings are noted in the memory, and the size of words is not touched by that.
variable (hget : kind (get : Act Memory))
  (hmodify : ∀ change : Memory → Memory, (∀ m, (change m).wideWords = m.wideWords) →
    kind (modify change : Act PUnit))

include hget hmodify

omit hnotice in
theorem onceFor (key : Text) (give : Act Unit) (hgive : kind give) :
    kind (Maskwalk.onceFor key give) := by
  refine h.bind (h.bind hget fun _ => h.pure _) fun warned => ?_
  split
  · exact h.pure false
  refine h.bind (hmodify _ fun _ => rfl) fun _ => ?_
  exact h.bind hgive fun _ => h.pure true

/-- What a request for an identifier is made of. -/
theorem identifierFor (hrequest : ∀ name, kind (Act.request (.identifier name)))
    (name : Option Text) : kind (Maskwalk.identifierFor name) := by
  refine h.bind (hrequest name) fun identifier => ?_
  split
  · exact h.pure _
  refine h.bind (h.bind hget fun _ => h.pure _) fun former => ?_
  refine h.bind (hmodify _ fun _ => rfl) fun _ => ?_
  split
  · exact h.pure _
  simp only
  split
  · exact h.bind (h.onceFor hget hmodify _ _ (hnotice _)) fun _ => h.pure _
  · exact h.pure _

end

end Act.Closed

theorem Act.closed_quiet : Act.Closed Act.Quiet := ⟨Quiet.pure, Quiet.throw, Quiet.bind⟩

theorem Searcher.findLibrary_quiet (s : Searcher) (name : Text) : (s.findLibrary name).Quiet :=
  Act.closed_quiet.findLibrary s s.platform.hasWideWords_quiet (fun _ => Quiet.request rfl)
    (Quiet.attempt (linkerDirs_quiet _ _)) (fun _ _ => Quiet.attempt (s.firstFound_quiet _ _))
    Quiet.notice name

theorem warn_quiet (template : Text) (arguments : List Value) : (warn template arguments).Quiet :=
  Act.closed_quiet.warn Quiet.notice template arguments

theorem report_quiet (template : Text) (arguments : List Value) :
    (report template arguments).Quiet :=
  Act.closed_quiet.report Quiet.notice template arguments

theorem hasWarned_quiet (key : Text) : (hasWarned key).Quiet :=
  Quiet.bind Quiet.get fun _ => Quiet.pure _

theorem onceFor_quiet (key : Text) (give : Act Unit) (hgive : give.Quiet) :
    (onceFor key give).Quiet :=
  Act.closed_quiet.onceFor Quiet.get (fun _ _ => Quiet.modify _) key give hgive

theorem nameOf_quiet (identifier : Text) : (nameOf identifier).Quiet :=
  Quiet.bind Quiet.get fun _ => Quiet.pure _

theorem identifierFor_quiet (name : Option Text) : (identifierFor name).Quiet :=
  Act.closed_quiet.identifierFor Quiet.notice Quiet.get (fun _ _ => Quiet.modify _)
    (fun _ => Quiet.request rfl) name

end

/-- Whether a step only looks at the world. -/
def Step.isQuery : Step → Bool
  | .makeDirs .. | .removeAll .. | .removeTree .. | .mkdir _ | .rmdir _ | .remove _ => false
  | _ => true

/-- A query asks for no change. -/
theorem Step.perform_quiet (e : Engine) (s : Step) (hs : s.isQuery = true) :
    (s.perform e).Quiet := by
  cases s with
  | makeDirs | removeAll | removeTree | mkdir | rmdir | remove =>
      exact absurd hs Bool.false_ne_true
  | matching mask files dirRule fileRule =>
      exact Act.Quiet.attempt ((e.matcher.matching_quiet mask files dirRule fileRule).returned _)
  | matchFiles mask =>
      exact Act.Quiet.attempt ((e.matcher.matching_quiet mask true none none).returned _)
  | matchDirs mask =>
      exact Act.Quiet.attempt ((e.matcher.matching_quiet mask false none none).returned _)
  | pathSearch name lists => exact Act.Quiet.attempt ((searchIn_quiet name _).returned _)
  | linkerDirs file => exact Act.Quiet.attempt ((linkerDirs_quiet e.matcher file).returned _)
  | locate names => exact Act.Quiet.attempt ((e.searcher.locate_quiet names).returned _)
  | splitList | osId | hostOs | caseSensitive | isOs =>
      exact Act.Quiet.attempt (Attempt.Quiet.pure _)
  | execute command => exact Act.Quiet.attempt ((Engine.execute_quiet command).returned _)
  | executeFilled template arguments =>
      refine Act.Quiet.attempt ?_
      refine (Engine.commandText_quiet template arguments).bind fun command => ?_
      exact (Engine.execute_quiet command).returned _
  | outputOf command => exact Act.Quiet.attempt ((Engine.outputOf_quiet command).returned _)
  | stat | listDir | readText =>
      refine Act.Quiet.attempt (Attempt.Quiet.bind (Attempt.Quiet.request rfl) fun reply => ?_)
      exact (Attempt.Quiet.orFail reply).returned _
  | findLibrary name => exact (e.searcher.findLibrary_quiet name).returned _
  | hasWideWords => exact e.platform.hasWideWords_quiet.returned _
  | platformInfo => exact e.platform.info_quiet.returned _
  | identifierFor name => exact (identifierFor_quiet name).returned _
  | nameOf identifier => exact (nameOf_quiet identifier).returned _
  | hasWarned key => exact (hasWarned_quiet key).returned _
  | warnOnce key message arguments =>
      exact (onceFor_quiet key _ (warn_quiet message arguments)).returned _
  | warn message arguments => exact (warn_quiet message arguments).returned _
  | report message arguments => exact (report_quiet message arguments).returned _
  | _ => exact Act.Quiet.attempt ((Attempt.Quiet.request rfl).returned _)

end Maskwalk

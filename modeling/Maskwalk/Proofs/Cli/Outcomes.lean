import Maskwalk.Cli.Run
import Maskwalk.Proofs.Cli.Writing
import Maskwalk.Proofs.Engine.WordSize

/-!
# What a command line reports

A command goes through three stages: the configuration is loaded, an engine is made, and the engine
does one thing. Each stage can end in a fault, and the last one can also end with an answer that
says that nothing was found or that a change failed. If the answer says success, it is printed, and
that can end in a fault as well, when the output refuses a piece of it.

All of this comes down to an exit code and to what is written. Both are read off the answer that the
same step has in a session, and off what the device takes of it. If there is an answer of success
and the device takes all of it, the exit code is zero, and otherwise it is one. What is written is
the answer, up to the first piece that was refused, or nothing, if there is no such answer.

## Main definitions

* `Command.step`: the step that a command is for.
* `Answer.isSuccess`, `Answer.printed`: what an answer says, and how it is printed.
* `CarriedOut`: a command that gets through all stages, and its answer.
* `Exit.reporting`: what is left by a command whose step has an answer.

## Theorems

* `engineFor_ran`: The first two stages.
* `perform_answer`: The last stage is a step of a session.
* `runOn_stages`: All three stages, of which only an answer in the last one is reported.
* `runOn_of_success`, `runOn_of_no_success`: What is reported.
* `run_reports`: The exit code and the output of a command line.
* `output_not_paths`: Lines of output that are no paths, and output in front of a failure.
-/

namespace Maskwalk

namespace Cli

/-- The step that a command is for. -/
def Command.step : Command → Step
  | .matching mask dirs dirRule fileRule =>
    .matching mask (!dirs) (ruleOf dirRule) (ruleOf fileRule)
  | .findLibrary name => .findLibrary name
  | .locate names => .locate names
  | .makeDirs path => .makeDirs path false
  | .removeAll masks => .removeAll (.many (masks.map .mask)) false
  | .removeTree path => .removeTree path false
  | .info => .platformInfo
  | .uuid name => .identifierFor name

end Cli

/-- Whether an answer says that what was asked for was done or found. -/
def Answer.isSuccess : Answer → Bool
  | .outcome o => o.ok
  | .perhaps found => found.isSome
  | _ => true

/-- The lines in which an answer is printed. -/
def Answer.printed : Answer → List Text
  | .texts paths => paths
  | .perhaps found => found.toList
  | .text t => [t]
  | .info i => [Cli.osLine i.os, Cli.wordsLine i.wideWords, Cli.platformLine i]
  | _ => []

namespace Cli

/-- What is left by a command that fails without having printed anything. -/
def Exit.failed : Exit := ⟨1, []⟩

/-- What is left by a command that has sent all it has to say to a device. -/
def Exit.ofSending (sending : Text × Option Text) : Exit :=
  ⟨if sending.2.isNone then 0 else 1, sending.1⟩

/-- What is left by a command whose step has an answer. -/
def Exit.reporting (d : Device) (a : Answer) : Exit :=
  if a.isSuccess then .ofSending (d.send [] (Job.piecesOf a.printed)) else .failed

/-- What is left by a command whose step has an answer or a fault. -/
def Exit.ofReply (d : Device) : Except Fault Answer → Exit
  | .ok answer => .reporting d answer
  | .error _ => .failed

/-- What is left by a command whose job comes to something. -/
def Exit.ofJob (left : (Except Fault Nat × Memory) × Text) : Exit :=
  ⟨left.1.1.toOption.getD 1, left.2⟩

theorem Exit.code_ofSending (sending : Text × Option Text) :
    ((ofSending sending).code = 0 ∨ (ofSending sending).code = 1) ∧
      ((ofSending sending).code = 0 ↔ sending.2 = none) := by
  rcases sending with ⟨sent, refusal⟩
  cases refusal with
  | none => exact ⟨Or.inl rfl, iff_of_true rfl rfl⟩
  | some why => exact ⟨Or.inr rfl, iff_of_false Nat.one_ne_zero (Option.some_ne_none why)⟩

section

variable {σ : Type} [World σ]

/-- A command line that is carried out: its configuration is loaded, and with what the options set
    put in, an engine can be made, and its step has an answer. -/
def CarriedOut (host : Host) (s : Settings) (c : Command) (w : σ) (answer : Answer) : Prop :=
  ∃ config session,
    ((Config.load s.config).ran w).result = .ok config ∧
    Session.start { config with
        os := if s.os.getD [] = [] then config.os else s.os.map Text.toLower
        scripts := if s.scripts.getD [] = [] then config.scripts else s.scripts }
      host none ((Config.load s.config).ran w).world = .ok session ∧
    (session.perform c.step).1.result = .ok answer

/-- A command line has one answer at most. -/
theorem CarriedOut.unique {host : Host} {s : Settings} {c : Command} {w : σ} {answer other : Answer}
    (h : CarriedOut host s c w answer) (h' : CarriedOut host s c w other) : other = answer := by
  rcases h with ⟨config, session, hload, hstart, hanswer⟩
  rcases h' with ⟨config', session', hload', hstart', hother⟩
  cases Except.ok.inj (hload.symm.trans hload')
  cases Except.ok.inj (hstart.symm.trans hstart')
  exact Except.ok.inj (hother.symm.trans hanswer)

/-- What is given and not empty goes before what there is otherwise. -/
theorem given_or (f : Text → Text) (t otherwise : Option Text) :
    ((given t).map f).or otherwise = if t.getD [] = [] then otherwise else t.map f := by
  cases t with
  | none => rfl
  | some t =>
      cases t with
      | nil => rfl
      | cons c more => rfl

theorem withSettings_eq (s : Settings) (config : Config) :
    withSettings s config = { config with
      os := if s.os.getD [] = [] then config.os else s.os.map Text.toLower
      scripts := if s.scripts.getD [] = [] then config.scripts else s.scripts } := by
  have hscripts := given_or id s.scripts config.scripts
  rw [Option.map_id_fun, id, id] at hscripts
  rw [withSettings, given_or, hscripts]

/-- The configuration is loaded, and then an engine is made, which leaves the world alone. -/
theorem engineFor_ran (host : Host) (s : Settings) (w : σ) :
    ((engineFor host s).ran w).world = ((Config.load s.config).ran w).world ∧
    ((engineFor host s).ran w).result =
      match ((Config.load s.config).ran w).result with
      | .ok config => (Engine.make (withSettings s config) host none).mapError .badPattern
      | .error fault => .error fault := by
  rw [engineFor, Attempt.world_bind, Attempt.result_bind]
  cases ((Config.load s.config).ran w).result with
  | error fault => exact ⟨rfl, rfl⟩
  | ok config =>
      rw [Attempt.further_ok, Attempt.world_bind, Attempt.result_bind]
      simp only
      cases Engine.make (withSettings s config) host none with
      | ok engine => exact ⟨rfl, rfl⟩
      | error problem => exact ⟨rfl, rfl⟩

theorem settle_lenient (o : Outcome) : settle false o = Pure.pure (.outcome o) := by
  unfold settle
  split
  · rfl
  · rfl

section

variable (d : Device) (m : Memory) (w : σ)

/-- A job that prints lines and then has nothing more to do. -/
theorem printed_exit (lines : List Text) (written : Text) :
    Exit.ofJob ((Job.print lines >>= fun _ => Pure.pure 0).ran d m written w).result =
      .ofSending (d.send written (Job.piecesOf lines)) := by
  rw [Job.ran_print_bind]
  rcases d.send written (Job.piecesOf lines) with ⟨sent, refusal⟩
  cases refusal with
  | none => rfl
  | some why => rfl

theorem found_exit (found? : Option Path) (wanted : Text) :
    Exit.ofJob ((found found? wanted).ran d m [] w).result = .reporting d (.perhaps found?) := by
  cases found? with
  | none => rfl
  | some path => exact printed_exit d m w [path] []

theorem changed_exit (command : String) (o : Outcome) :
    Exit.ofJob ((changed command o).ran d m [] w).result = .reporting d (.outcome o) := by
  unfold changed Exit.reporting Answer.isSuccess
  split
  · rfl
  · rfl

/-- What is told about a platform is printed in one go, also if the size of words is asked for in
    between, since it is known by then. -/
theorem info_exit (p : Platform) (i : PlatformInfo) (hos : i.os = p.osId)
    (hknown : m.wideWords = some i.wideWords) :
    Exit.ofJob ((do
      Job.print [osLine p.osId]
      Job.print [wordsLine (← Job.act p.hasWideWords)]
      Job.print [platformLine i]
      return 0 : Job Nat).ran d m [] w).result = .reporting d (.info i) := by
  have hpieces : Job.piecesOf (Answer.printed (.info i)) =
      Job.piecesOf [osLine p.osId] ++
        (Job.piecesOf [wordsLine i.wideWords] ++ Job.piecesOf [platformLine i]) := by
    rw [← hos]
    rfl
  have hwide : ∀ (written : Text) (f : Bool → Job Nat),
      ((Job.act p.hasWideWords >>= f).ran d m written w).result =
        ((f i.wideWords).ran d m written w).result := by
    intro written f
    rw [Job.ran_bind, Job.ran_act, p.ran_hasWideWords hknown]
    rfl
  have hsuccess : (Answer.info i).isSuccess = true := rfl
  rw [Exit.reporting, if_pos hsuccess, hpieces, Device.send_append, Job.ran_print_bind]
  rcases d.send [] (Job.piecesOf [osLine p.osId]) with ⟨sent, refusal⟩
  cases refusal with
  | some why => rfl
  | none =>
      simp only
      rw [hwide, Device.send_append, Job.ran_print_bind]
      rcases d.send sent (Job.piecesOf [wordsLine i.wideWords]) with ⟨sent, refusal⟩
      cases refusal with
      | some why => rfl
      | none => exact printed_exit d m w [platformLine i] sent

end

section

variable (session : Session σ) (d : Device)

/-- The answer of a step that is made of what an attempt comes to. -/
theorem answer_of_attempt {α : Type} (step : Step) (a : Attempt α) (f : α → Answer)
    (h : step.attempt? session.engine = some (a >>= fun x => Pure.pure (f x))) :
    (session.perform step).1.result =
      ((Act.attempt a).ran session.memory session.world).result.1.map f := by
  rw [session.perform_of_attempt step _ h, Act.ran_attempt]
  simp only
  rw [Attempt.result_bind]
  cases (a.ran session.world).result with
  | ok x => rfl
  | error fault => rfl

/-- What a command tells is told of the answer of its step, if each result is told as an answer. -/
theorem told_answer {α : Type} {step : Step} {a : Act α} {tell : α → Job Nat} {f : α → Answer}
    (hanswer : (session.perform step).1.result =
      (a.ran session.memory session.world).result.1.map f)
    (htell : ∀ x, (a.ran session.memory session.world).result.1 = .ok x →
      Exit.ofJob ((tell x).ran d (a.ran session.memory session.world).result.2 []
        (a.ran session.memory session.world).world).result = .reporting d (f x)) :
    Exit.ofJob ((Job.act a >>= tell).ran d session.memory [] session.world).result =
      .ofReply d (session.perform step).1.result := by
  rw [Job.ran_bind, Job.ran_act, hanswer]
  simp only
  cases h : (a.ran session.memory session.world).result.1 with
  | ok x => exact htell x h
  | error fault => rfl

theorem changed_answer (command : String) (step : Step) (a : Attempt Outcome)
    (h : step.attempt? session.engine = some (a >>= settle false)) :
    Exit.ofJob ((Job.attempt a >>= changed command).ran d session.memory [] session.world).result =
      .ofReply d (session.perform step).1.result := by
  have hlenient : settle false = fun o => Pure.pure (Answer.outcome o) := funext settle_lenient
  rw [hlenient] at h
  exact told_answer session d (answer_of_attempt session step a _ h) fun o _ =>
    changed_exit d _ _ command o

/-- The last stage is a step of a session. -/
theorem perform_answer (c : Command) :
    Exit.ofJob ((perform session.engine c).ran d session.memory [] session.world).result =
      .ofReply d (session.perform c.step).1.result := by
  cases c with
  | matching mask dirs dirRule fileRule =>
      refine told_answer session d (answer_of_attempt session _ _ Answer.texts rfl) ?_
      -- The notice in front of the lines changes nothing about what they come to.
      exact fun paths _ => printed_exit d _ _ paths []
  | findLibrary name =>
      refine told_answer session d (f := .perhaps) ?_ fun found? _ => found_exit d _ _ found? name
      exact congrArg (·.1.result) (session.perform_of_act (.findLibrary name) _ _ rfl)
  | locate names =>
      exact told_answer session d (answer_of_attempt session _ _ Answer.perhaps rfl)
        fun found? _ => found_exit d _ _ found? _
  | makeDirs path => exact changed_answer session d "mkdir" _ _ rfl
  | removeAll masks => exact changed_answer session d "rm" _ _ rfl
  | removeTree path => exact changed_answer session d "rmdir" _ _ rfl
  | info =>
      refine told_answer session d (f := .info) ?_ fun i hi => ?_
      · exact congrArg (·.1.result) (session.perform_of_act .platformInfo _ _ rfl)
      · rcases session.engine.platform.info_known _ _ i hi with ⟨hos, hknown⟩
        exact info_exit d _ _ session.engine.platform i hos hknown
  | uuid name =>
      refine told_answer session d (f := .text) ?_ fun identifier _ =>
        printed_exit d _ _ [identifier] []
      exact congrArg (·.1.result) (session.perform_of_act (.identifierFor name) _ _ rfl)

end

section

variable (d : Device) (host : Host) (s : Settings) (c : Command) (w : σ)

/-- A command leaves what its job comes to, with any fault as a failure. -/
theorem runOn_result : ((runOn d host s c).run w).result =
    .ofJob ((Job.attempt (engineFor host s) >>= fun e => perform e c).ran d .fresh [] w).result := by
  let whole : Job Nat := Job.attempt (engineFor host s) >>= fun e => perform e c
  have hwork : work host s c = (whole.start .fresh).bind fun r => closing r.1 := rfl
  have hrun : runOn d host s c = ((work host s c).onto d []).bind fun r => .done ⟨r.1, r.2⟩ := rfl
  rw [hrun, hwork, Writing.onto_bind, Inquiry.run_bind, Inquiry.run_bind]
  change Exit.mk _ _ = .ofJob (((whole.start .fresh).onto d []).run w).result
  rcases ((whole.start .fresh).onto d []).run w with ⟨⟨⟨result, m⟩, written⟩, notices, world⟩
  cases result with
  | ok code => rfl
  | error fault => rfl

/-- The three stages of a command. Only an answer in the last of them is reported. -/
theorem runOn_stages : ((runOn d host s c).run w).result =
    match ((Config.load s.config).ran w).result with
    | .error _ => .failed
    | .ok config =>
      match Session.start (withSettings s config) host none
          ((Config.load s.config).ran w).world with
      | .error _ => .failed
      | .ok session => .ofReply d (session.perform c.step).1.result := by
  rcases engineFor_ran host s w with ⟨hworld, hresult⟩
  rw [runOn_result, Job.ran_bind, Job.attempt, Job.ran_act, Act.ran_attempt]
  simp only
  rw [hworld, hresult]
  cases ((Config.load s.config).ran w).result with
  | error fault => rfl
  | ok config =>
      simp only [Session.start]
      cases Engine.make (withSettings s config) host none with
      | error problem => rfl
      | ok engine => exact perform_answer ⟨_, host, none, engine, .fresh, _⟩ d c

variable {host s c w}

/-- A command that is carried out reports its answer. -/
theorem runOn_of_carriedOut {answer : Answer} (h : CarriedOut host s c w answer) :
    ((runOn d host s c).run w).result = .reporting d answer := by
  rcases h with ⟨config, session, hload, hstart, hanswer⟩
  rw [← withSettings_eq] at hstart
  rw [runOn_stages, hload]
  simp only
  rw [hstart]
  simp only
  rw [hanswer]
  rfl

theorem runOn_of_not_carriedOut (h : ∀ answer, ¬ CarriedOut host s c w answer) :
    ((runOn d host s c).run w).result = .failed := by
  rw [runOn_stages]
  cases hload : ((Config.load s.config).ran w).result with
  | error fault => rfl
  | ok config =>
      simp only
      cases hstart : Session.start (withSettings s config) host none
          ((Config.load s.config).ran w).world with
      | error problem => rfl
      | ok session =>
          simp only
          cases hanswer : (session.perform c.step).1.result with
          | error fault => rfl
          | ok answer =>
              rw [withSettings_eq] at hstart
              exact absurd ⟨config, session, hload, hstart, hanswer⟩ (h answer)

/-- A command that succeeds prints its answer, as far as the device takes it. -/
theorem runOn_of_success {answer : Answer} (h : CarriedOut host s c w answer)
    (hsuccess : answer.isSuccess = true) : ((runOn d host s c).run w).result =
      .ofSending (d.send [] (Job.piecesOf answer.printed)) := by
  rw [runOn_of_carriedOut d h, Exit.reporting, if_pos hsuccess]

/-- One that does not succeed reports a failure. -/
theorem runOn_of_no_success
    (h : ∀ answer, CarriedOut host s c w answer → answer.isSuccess = false) :
    ((runOn d host s c).run w).result = .failed := by
  by_cases hcarried : ∃ answer, CarriedOut host s c w answer
  · rcases hcarried with ⟨answer, hanswer⟩
    rw [runOn_of_carriedOut d hanswer, Exit.reporting, h answer hanswer,
      if_neg Bool.false_ne_true]
  · exact runOn_of_not_carriedOut d fun answer hanswer => hcarried ⟨answer, hanswer⟩

variable (host s c w)

/-- The exit code and the output of a command, whatever takes the output. -/
theorem runOn_exit :
    let exit := ((runOn d host s c).run w).result
    (exit.code = 0 ∨ exit.code = 1) ∧
    (exit.code = 0 ↔ ∃ answer, CarriedOut host s c w answer ∧ answer.isSuccess = true ∧
      (d.send [] (Job.piecesOf answer.printed)).2 = none) ∧
    (exit.code = 1 → exit.written = [] ∨ ∃ answer front piece rest,
      CarriedOut host s c w answer ∧ answer.isSuccess = true ∧
      Job.piecesOf answer.printed = front ++ piece :: rest ∧
      exit.written = front.flatten ∧ d.refusal? exit.written piece ≠ none) ∧
    ∀ answer, CarriedOut host s c w answer → answer.isSuccess = true →
      exit.written = (d.send [] (Job.piecesOf answer.printed)).1 := by
  simp only
  by_cases hsuccess : ∃ answer, CarriedOut host s c w answer ∧ answer.isSuccess = true
  · rcases hsuccess with ⟨answer, hanswer, hsuccess⟩
    rw [runOn_of_success d hanswer hsuccess]
    rcases Exit.code_ofSending (d.send [] (Job.piecesOf answer.printed)) with ⟨hcode, hzero⟩
    refine ⟨hcode, hzero.trans ⟨fun h => ⟨answer, hanswer, hsuccess, h⟩, ?_⟩, fun hone => ?_, ?_⟩
    · rintro ⟨other, hother, _, htaken⟩
      rwa [hanswer.unique hother] at htaken
    · cases hsent : (d.send [] (Job.piecesOf answer.printed)).2 with
      | none => exact absurd ((hzero.mpr hsent).symm.trans hone) Nat.zero_ne_one
      | some why =>
          rcases d.send_refused [] hsent with ⟨front, piece, rest, hpieces, hfront, hpiece⟩
          rw [List.nil_append] at hfront hpiece
          rw [← hfront] at hpiece
          refine Or.inr ⟨answer, front, piece, rest, hanswer, hsuccess, hpieces, hfront, fun h => ?_⟩
          exact absurd (hpiece.symm.trans h) (Option.some_ne_none why)
    · intro other hother _
      rw [hanswer.unique hother]
      rfl
  · rw [runOn_of_no_success d fun answer hanswer =>
      Bool.eq_false_iff.mpr fun h => hsuccess ⟨answer, hanswer, h⟩]
    refine ⟨Or.inr rfl, iff_of_false nofun ?_, fun _ => Or.inl rfl, ?_⟩
    · exact fun ⟨answer, hanswer, h, _⟩ => hsuccess ⟨answer, hanswer, h⟩
    · exact fun answer hanswer h => absurd ⟨answer, hanswer, h⟩ hsuccess

end

/-- What was said has a command in it, and sets the options, if there is a command to run. -/
theorem invocationOf_run {said : Said Meaning} {settings : Settings} {command : Command}
    (h : invocationOf said = .ok (.run settings command)) :
    commandOf said.texts = .ok command ∧ settingsOf said = settings := by
  unfold invocationOf at h
  unfold Said.texts
  cases hplain : said.plain with
  | none =>
      rw [hplain] at h
      cases hstray : said.stray <;> rw [hstray] at h <;> exact absurd h nofun
  | some texts =>
      rw [hplain] at h
      cases hcommand : commandOf texts with
      | error ending =>
          simp only [hcommand] at h
          exact absurd h nofun
      | ok given =>
          simp only [hcommand] at h
          cases hstray : said.stray with
          | true =>
              rw [hstray] at h
              exact absurd h nofun
          | false =>
              rw [hstray] at h
              rcases Invocation.run.inj (Except.ok.inj h) with ⟨hsettings, hgiven⟩
              exact ⟨hcommand.trans (congrArg Except.ok hgiven), hsettings⟩

/-- What a command line with a command consists of. -/
theorem ofArguments_run {arguments : List Text} {settings : Settings} {command : Command}
    (h : Invocation.ofArguments arguments = .run settings command) :
    ∃ said, programGrammar.read arguments = .ok said ∧ commandOf said.texts = .ok command ∧
      settings.config = said.value .config ∧ settings.os = said.value .os ∧
      settings.scripts = said.value .scripts := by
  have hinvocation : (programGrammar.read arguments).bind invocationOf =
      .ok (.run settings command) := by
    unfold Invocation.ofArguments at h
    cases hread : (programGrammar.read arguments).bind invocationOf with
    | ok invocation =>
        rw [hread] at h
        exact congrArg Except.ok h
    | error ending =>
        rw [hread] at h
        cases ending <;> exact absurd h nofun
  cases hread : programGrammar.read arguments with
  | error ending =>
      rw [hread] at hinvocation
      exact absurd hinvocation nofun
  | ok said =>
      rw [hread] at hinvocation
      rcases invocationOf_run hinvocation with ⟨hcommand, hsettings⟩
      rw [← hsettings]
      exact ⟨said, rfl, hcommand, rfl, rfl, rfl⟩

/-- A command line with a command, on any host and in any world. Its options are those that were
    read last. The exit code is zero or one. It is zero just if the command is carried out, with the
    operating system and the path of scripts that the options set, if its answer says success, and if
    the output takes all of it. At one nothing is written, unless the output refused a piece of such
    an answer. What is written is the answer, all matched paths in order or the path that was found,
    each with a line end behind it, up to the first piece that was refused.

    With an output that refuses nothing, nothing is written at one, and all of the answer at zero. -/
theorem run_reports (host : Host) (w : σ) (arguments : List Text) (settings : Settings)
    (command : Command) (h : Invocation.ofArguments arguments = .run settings command) :
    (∃ said, programGrammar.read arguments = .ok said ∧ commandOf said.texts = .ok command ∧
      settings.config = said.value .config ∧ settings.os = said.value .os ∧
      settings.scripts = said.value .scripts) ∧
    (∀ d : Device,
      let exit := ((runOn d host settings command).run w).result
      (exit.code = 0 ∨ exit.code = 1) ∧
      (exit.code = 0 ↔
        ∃ answer, CarriedOut host settings command w answer ∧ answer.isSuccess = true ∧
          (d.send [] (Job.piecesOf answer.printed)).2 = none) ∧
      (exit.code = 1 → exit.written = [] ∨ ∃ answer front piece rest,
        CarriedOut host settings command w answer ∧ answer.isSuccess = true ∧
        Job.piecesOf answer.printed = front ++ piece :: rest ∧
        exit.written = front.flatten ∧ d.refusal? exit.written piece ≠ none) ∧
      ∀ answer, CarriedOut host settings command w answer → answer.isSuccess = true →
        exit.written = (d.send [] (Job.piecesOf answer.printed)).1) ∧
    let exit := ((run host settings command).run w).result
    (exit.code = 0 ↔
      ∃ answer, CarriedOut host settings command w answer ∧ answer.isSuccess = true) ∧
    (exit.code = 1 → exit.written = []) ∧
    ∀ answer, CarriedOut host settings command w answer → answer.isSuccess = true →
      exit.written = (Job.piecesOf answer.printed).flatten := by
  refine ⟨ofArguments_run h, fun d => runOn_exit d host settings command w, ?_⟩
  have hready : ∀ answer : Answer, Device.ready.send [] (Job.piecesOf answer.printed) =
      ((Job.piecesOf answer.printed).flatten, none) := fun answer => Device.send_ready [] _
  rcases runOn_exit .ready host settings command w with ⟨_, hzero, hone, hwritten⟩
  refine ⟨hzero.trans (exists_congr fun answer => and_congr_right fun _ => ?_), ?_, ?_⟩
  · exact and_iff_left (congrArg Prod.snd (hready answer))
  · exact fun hcode => (hone hcode).resolve_right fun ⟨_, _, _, _, _, _, _, _, hrefused⟩ =>
      hrefused rfl
  · exact fun answer hanswer hsuccess =>
      (hwritten answer hanswer hsuccess).trans (congrArg Prod.fst (hready answer))

end

/-- A command line that looks for a script where an option says. -/
def lookingForScript : List Text :=
  ["--os".toList, "Haiku".toList, "--scripts".toList, "/q;/".toList, "locate".toList, "r".toList]

theorem run_reports_script :
    ∃ settings command, Invocation.ofArguments lookingForScript = .run settings command ∧
      let exit := ((run Session.onGrove.host settings command).run Keyed.grove).result
      exit.code = 0 ∧ ∃ answer,
        CarriedOut Session.onGrove.host settings command Keyed.grove answer ∧
        answer.isSuccess = true ∧ exit.written = (Job.piecesOf answer.printed).flatten := by
  have hread : Invocation.ofArguments lookingForScript =
      .run ⟨false, false, none, some "Haiku".toList, some "/q;/".toList⟩
        (.locate ["r".toList]) := by decide
  have hdone : ((run Session.onGrove.host
      ⟨false, false, none, some "Haiku".toList, some "/q;/".toList⟩
      (.locate ["r".toList])).run Keyed.grove).result.code = 0 := by decide
  rcases run_reports Session.onGrove.host Keyed.grove _ _ _ hread with
    ⟨_, _, hcode, _, hwritten⟩
  rcases hcode.mp hdone with ⟨answer, hanswer, hsuccess⟩
  exact ⟨_, _, hread, hdone, answer, hanswer, hsuccess, hwritten answer hanswer hsuccess⟩

/-- Two files. The name of the first goes over two lines, that of the second has a letter that is
    not in ASCII. -/
def oddNames : Keyed := (Keyed.bare.addFile "a\nb".toList []).addFile "é".toList []

/-- A command that lists the files of the current directory. -/
def listing : Command := .matching ['*'] false none none

/-- No options. -/
def noSettings : Settings := ⟨false, false, none, none, none⟩

/-- A device that has codes for ASCII only. -/
def ascii : Device := .coded (fun c => c.toNat < 128) "not in ASCII".toList

/-- The lines of the output need not be the matched paths, since a path can go over two lines. And
    the output need not be empty at one, since the second path can be refused when the first is
    already printed. -/
theorem output_not_paths :
    CarriedOut Session.onGrove.host noSettings listing oddNames
      (.texts ["a\nb".toList, "é".toList]) ∧
    ((run Session.onGrove.host noSettings listing).run oddNames).result.code = 0 ∧
    ((run Session.onGrove.host noSettings listing).run oddNames).result.output ≠
      ["a\nb".toList, "é".toList] ∧
    ((runOn ascii Session.onGrove.host noSettings listing).run oddNames).result.code = 1 ∧
    ((runOn ascii Session.onGrove.host noSettings listing).run oddNames).result.written ≠ [] :=
  ⟨⟨_, _, rfl, rfl, rfl⟩, by decide, by decide, by decide, by decide⟩

end Cli

end Maskwalk

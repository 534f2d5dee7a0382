import Maskwalk.Config.Fields
import Maskwalk.Engine.Basic

/-!
# Which mappings are configurations

A mapping is a configuration if each of its settings is missing, null or of its kind. That is said
here without the order in which the settings are read, which only decides about the mistake that is
told. All other keys are passed over, also in the mapping of the rules.

A reader passes a judgement on what it reads: it accepts it, refuses it as a problem of the
configuration, or trips over it and ends in some other fault. Only rules can make it trip, since a
pattern can be no mistake as such and still ask for more than can be done. Readers in a row judge
one after another, so the judgement on a mapping is put together from those on its settings.

A rule that was accepted is compiled again when an engine is made, by the same function, so that
cannot fail.

## Main definitions

* `Judges`: what a reader makes of what it is given.
* `Config.Plain`, `Config.Accepted`: mappings whose settings are of their kinds.
* `Config.Trips`: mappings whose rules make the reader trip.
* `Config.SameSettings`: mappings that differ in other keys only.
* `Config.givenDirs`, `Config.givenFiles`: the rules that a mapping gives.

## Theorems

* `Judges.bind`: One reader after another.
* `Config.ofFields_judges`: The judgement on a mapping.
* `Config.ofFields_congr`: Other keys do not matter.
* `Config.ofFields_exact`: Which mappings are configurations, and what these are good for.
-/

namespace Maskwalk

variable {α β : Type}

/-- What a reader makes of what it is given: it accepts what is good, it trips over what is bad with
    a fault that is no problem of the configuration, and all else is such a problem. -/
inductive Judges (good bad : Prop) : Except Fault α → Prop where
  | accepts (x : α) (hgood : good) (hbad : ¬ bad) : Judges good bad (.ok x)
  | refuses (problem : ConfigProblem) (hgood : ¬ good) (hbad : ¬ bad) :
    Judges good bad (.error (.config problem))
  | trips (fault : Fault) (hfault : ∀ problem, fault ≠ .config problem) (hgood : ¬ good)
    (hbad : bad) : Judges good bad (.error fault)

namespace Judges

variable {good bad good' bad' : Prop} {r : Except Fault α}

theorem congr (h : Judges good bad r) (hgood : good ↔ good') (hbad : bad ↔ bad') :
    Judges good' bad' r := by
  rwa [← propext hgood, ← propext hbad]

theorem returns (x : α) : Judges True False (.ok x) := .accepts x trivial not_false

/-- One reader after another: the second judges what the first one accepts. -/
theorem bind {f : α → Except Fault β} (hr : Judges good bad r)
    (hf : ∀ x, r = .ok x → Judges good' bad' (f x)) :
    Judges (good ∧ good') (bad ∨ good ∧ bad') (r >>= f) := by
  cases hr with
  | accepts x hgood hbad =>
      exact (hf x rfl).congr (by simp [hgood]) (by simp [hgood, hbad])
  | refuses problem hgood hbad =>
      exact .refuses problem (fun h => hgood h.1) (by simp [hgood, hbad])
  | trips fault hfault hgood hbad =>
      exact .trips fault hfault (fun h => hgood h.1) (Or.inl hbad)

theorem accepts_iff (h : Judges good bad r) : (∃ x, r = .ok x) ↔ good := by
  cases h with
  | accepts x hgood _ => exact ⟨fun _ => hgood, fun _ => ⟨x, rfl⟩⟩
  | refuses problem hgood _ => simp [hgood]
  | trips fault _ hgood _ => simp [hgood]

end Judges

/-- One reader after another ends well just if both do. -/
theorem bind_eq_ok_iff (r : Except Fault α) (f : α → Except Fault β) (y : β) :
    (r >>= f) = .ok y ↔ ∃ x, r = .ok x ∧ f x = .ok y := by
  cases r with
  | ok x => exact ⟨fun h => ⟨x, rfl, h⟩, fun ⟨x', hx, h⟩ => by rw [Except.ok.inj hx]; exact h⟩
  | error fault => exact ⟨nofun, fun ⟨x, hx, _⟩ => absurd hx nofun⟩

namespace Value

/-- A text is the same key as itself only. -/
theorem same_text_iff (key : Value) (name : Text) :
    same key (.text name) = true ↔ key = .text name := by
  cases key <;> simp [same, number?]

theorem text_same_iff (key : Value) (name : Text) :
    same (.text name) key = true ↔ key = .text name := by
  cases key <;> simp [same, number?, eq_comm]

/-- A value set for another key does not matter to the value of a text. -/
theorem field?_setField_of_ne (name : Text) (key value : Value) (hkey : key ≠ .text name)
    (fields : List (Value × Value)) :
    field? name (setField key value fields) = field? name fields := by
  induction fields with
  | nil => exact if_neg fun h => hkey ((same_text_iff key name).mp h)
  | cons field more ih =>
      rcases field with ⟨k, v⟩
      rw [setField]
      by_cases hsame : same k key = true
      · have hk : same k (.text name) ≠ true := fun h => by
          rw [(same_text_iff k name).mp h] at hsame
          exact hkey ((text_same_iff key name).mp hsame)
        rw [if_pos hsame, field?, field?, if_neg hk, if_neg hk]
      · rw [if_neg hsame, field?, field?, ih]

/-- The values that equal the number one, whatever their kind. -/
inductive IsOne : Value → Prop where
  | int : IsOne (.int 1)
  | bool : IsOne (.bool true)
  | float (m : Nat) (e : Int) (h : m * twoPow e = twoPow (-e)) : IsOne (.float (.finite false m e))

/-- A floating-point number has the value one just if it is positive, and its significand and the
    power of two make up for each other. -/
theorem isInt_one_iff (x : Double) : x.isInt 1 = true ↔
    ∃ m e, x = .finite false m e ∧ m * twoPow e = twoPow (-e) := by
  cases x with
  | infinite negative => simp [Double.isInt]
  | notANumber => simp [Double.isInt]
  | finite negative m e =>
      have hpos : 0 < twoPow (-e) := Nat.pow_pos Nat.two_pos
      cases negative with
      | true =>
          simp only [Double.isInt, if_true, Bool.and_eq_true, decide_eq_true_eq]
          generalize m * twoPow e / twoPow (-e) = size
          constructor
          · omega
          · rintro ⟨m', e', h, _⟩
            cases h
      | false =>
          simp only [Double.isInt, Bool.false_eq_true, if_false, Bool.and_eq_true,
            decide_eq_true_eq, Double.finite.injEq, true_and]
          constructor
          · rintro ⟨hmod, hdiv⟩
            have hone : m * twoPow e / twoPow (-e) = 1 := by omega
            refine ⟨m, e, ⟨rfl, rfl⟩, ?_⟩
            rw [← Nat.div_add_mod (m * twoPow e) (twoPow (-e)), hone, hmod]
            omega
          · rintro ⟨m', e', ⟨rfl, rfl⟩, h⟩
            rw [h]
            exact ⟨Nat.mod_self _, by rw [Nat.div_self hpos]; rfl⟩

theorem isOne_iff (v : Value) : v.isOne = true ↔ v.IsOne := by
  constructor
  · intro h
    cases v with
    | bool b =>
        cases b with
        | true => exact .bool
        | false => exact absurd h (by decide)
    | int n =>
        simp only [isOne, same, number?, sameNumber, decide_eq_true_eq] at h
        rw [h]
        exact .int
    | float x =>
        rcases (isInt_one_iff x).mp h with ⟨m, e, rfl, hone⟩
        exact .float m e hone
    | _ => exact absurd h (by simp [isOne, same, number?])
  · rintro (_ | _ | ⟨m, e, hone⟩)
    · rfl
    · rfl
    · exact (isInt_one_iff _).mpr ⟨m, e, rfl, hone⟩

end Value

namespace Config

open Value (field?)

/-- A setting that is missing, null or a text. -/
def IsText : Option Value → Prop
  | none | some .null | some (.text _) => True
  | some _ => False

/-- A setting that is missing, null, a text or a list of texts. -/
def IsTexts : Option Value → Prop
  | none | some .null | some (.text _) => True
  | some (.list items) => ∀ item ∈ items, ∃ t, item = .text t
  | some _ => False

/-- A rule that is missing, null or the text of a pattern. -/
def IsRule : Option Value → Prop
  | none | some .null => True
  | some (.text rule) => ∃ r, Regex.compile rule false = .ok r
  | some _ => False

/-- Rules that are missing, null, or a mapping with a rule for directories and one for files. -/
def IsRules : Option Value → Prop
  | none | some .null => True
  | some (.map rules) => IsRule (field? "dirs".toList rules) ∧ IsRule (field? "files".toList rules)
  | some _ => False

/-- A rule that asks for more than a pattern can do, which is no mistake in it as such. -/
def RuleTrips (set : Option Value) : Prop :=
  ∃ rule problem, set = some (.text rule) ∧ Regex.compile rule false = .error problem ∧
    problem.isMistake = false

/-- Rules of which one does so, and none is mistaken in front of it. -/
def RulesTrip (set : Option Value) : Prop :=
  ∃ rules, set = some (.map rules) ∧ (RuleTrips (field? "dirs".toList rules) ∨
    IsRule (field? "dirs".toList rules) ∧ RuleTrips (field? "files".toList rules))

/-- A mapping whose settings are of their kinds, its rules apart. -/
structure Plain (fields : List (Value × Value)) : Prop where
  version : ∀ v, field? "version".toList fields = some v → v.IsOne
  os : IsText (field? "os".toList fields)
  scripts : IsTexts (field? "scripts".toList fields)
  searchVariable : IsText (field? "search_env".toList fields)
  linkerConf : IsText (field? "ld_so_conf".toList fields)

/-- A mapping whose settings are of their kinds. -/
structure Accepted (fields : List (Value × Value)) : Prop extends Plain fields where
  exclude : IsRules (field? "exclude".toList fields)

/-- A mapping in which nothing is wrong but for a rule that asks for more than can be done. -/
structure Trips (fields : List (Value × Value)) : Prop extends Plain fields where
  exclude : RulesTrip (field? "exclude".toList fields)

theorem textField_judges (name : String) (fields : List (Value × Value)) :
    Judges (IsText (field? name.toList fields)) False (textField name fields) := by
  unfold textField
  split
  · rename_i h
    exact .accepts _ (by rw [h]; trivial) not_false
  · rename_i h
    exact .accepts _ (by rw [h]; trivial) not_false
  · rename_i h
    exact .accepts _ (by rw [h]; trivial) not_false
  · rename_i v hnull htext h
    refine .refuses _ (fun hgood => ?_) not_false
    rw [h] at hgood
    cases v with
    | null => exact hnull rfl
    | text t => exact htext t rfl
    | _ => exact hgood

/-- The items of a list are taken for texts just if they are. -/
theorem allTexts_isSome_iff (items : List Value) :
    (allTexts items).isSome = true ↔ ∀ item ∈ items, ∃ t, item = .text t := by
  induction items with
  | nil => simp [allTexts]
  | cons item more ih => cases item <;> simp [allTexts, ih]

theorem scriptsField_judges (fields : List (Value × Value)) :
    Judges (IsTexts (field? "scripts".toList fields)) False (scriptsField fields) := by
  unfold scriptsField
  cases field? "scripts".toList fields with
  | none => exact .accepts _ trivial not_false
  | some v =>
      cases v with
      | null => exact .accepts _ trivial not_false
      | text t => exact .accepts _ trivial not_false
      | list items =>
          have hall := allTexts_isSome_iff items
          simp only
          cases hitems : allTexts items with
          | some dirs => exact .accepts _ (hall.mp (by rw [hitems]; rfl)) not_false
          | none =>
              refine .refuses _ (fun hgood => ?_) not_false
              have hsome := hall.mpr hgood
              rw [hitems] at hsome
              exact Bool.false_ne_true hsome
      | _ => exact .refuses _ not_false not_false

/-- A rule is judged by what comes of it as a pattern. -/
theorem ruleText_judges (name : Text) (v : Value) :
    Judges (IsRule (some v)) (RuleTrips (some v)) (ruleText name v) := by
  have hnone : ∀ v : Value, (∀ t, v ≠ .text t) → ¬ RuleTrips (some v) := by
    rintro v hv ⟨rule, problem, h, _⟩
    exact hv rule (Option.some.inj h)
  cases v with
  | null => exact .accepts _ trivial (hnone _ nofun)
  | text rule =>
      rw [ruleText]
      cases hc : Regex.compile rule false with
      | ok r =>
          refine .accepts _ ⟨r, hc⟩ ?_
          rintro ⟨rule', problem, h, hp, _⟩
          cases h
          exact absurd (hc.symm.trans hp) nofun
      | error problem =>
          have hgood : ¬ IsRule (some (.text rule)) := by
            rintro ⟨r, hr⟩
            exact absurd (hc.symm.trans hr) nofun
          cases hm : problem.isMistake with
          | true =>
              simp only [hm, if_true]
              refine .refuses _ hgood ?_
              rintro ⟨rule', problem', h, hp, hm'⟩
              cases h
              cases hc.symm.trans hp
              exact absurd (hm.symm.trans hm') (by decide)
          | false =>
              simp only [hm, Bool.false_eq_true, if_false]
              exact .trips _ nofun hgood ⟨rule, problem, rfl, hc, hm⟩
  | _ => exact .refuses _ not_false (hnone _ nofun)

/-- The rule that leaves hidden directories out is a pattern. -/
theorem isRule_hiddenDirs : IsRule (some (.text hiddenDirs)) := ⟨_, rfl⟩

/-- Where no rule for directories is given, the one for hidden directories is accepted. -/
theorem dirsRule_iff (set : Option Value) :
    (IsRule (some (set.getD (.text hiddenDirs))) ↔ IsRule set) ∧
      (RuleTrips (some (set.getD (.text hiddenDirs))) ↔ RuleTrips set) := by
  cases set with
  | some v => exact ⟨Iff.rfl, Iff.rfl⟩
  | none =>
      refine ⟨iff_of_true isRule_hiddenDirs trivial, iff_of_false ?_ ?_⟩
      · rintro ⟨rule, problem, h, hp, _⟩
        cases h
        rcases isRule_hiddenDirs with ⟨r, hr⟩
        exact absurd (hr.symm.trans hp) nofun
      · rintro ⟨rule, problem, h, _⟩
        exact absurd h nofun

/-- And where none for files is given, nothing is left out. -/
theorem filesRule_iff (set : Option Value) :
    (IsRule (some (set.getD .null)) ↔ IsRule set) ∧
      (RuleTrips (some (set.getD .null)) ↔ RuleTrips set) := by
  cases set with
  | some v => exact ⟨Iff.rfl, Iff.rfl⟩
  | none =>
      refine ⟨Iff.rfl, iff_of_false ?_ ?_⟩
      · rintro ⟨rule, problem, h, _⟩
        exact absurd h nofun
      · rintro ⟨rule, problem, h, _⟩
        exact absurd h nofun

/-- The rules are judged in turn. -/
theorem excludeField_judges (fields : List (Value × Value)) :
    Judges (IsRules (field? "exclude".toList fields)) (RulesTrip (field? "exclude".toList fields))
      (excludeField fields) := by
  have hnone : ∀ set : Option Value, (∀ rules, set ≠ some (.map rules)) → ¬ RulesTrip set := by
    rintro set hset ⟨rules, h, _⟩
    exact hset rules h
  unfold excludeField
  cases field? "exclude".toList fields with
  | none => exact .accepts _ trivial (hnone _ nofun)
  | some v =>
      cases v with
      | null => exact .accepts _ trivial (hnone _ nofun)
      | map rules =>
          have hdirs := (ruleText_judges "exclude.dirs".toList _).congr
            (dirsRule_iff (field? "dirs".toList rules)).1
            (dirsRule_iff (field? "dirs".toList rules)).2
          have hfiles := (ruleText_judges "exclude.files".toList _).congr
            (filesRule_iff (field? "files".toList rules)).1
            (filesRule_iff (field? "files".toList rules)).2
          refine (hdirs.bind fun dirs _ => hfiles.bind fun files _ =>
            Judges.returns (dirs, files)).congr ?_ ?_
          · simp [IsRules]
          · simp [RulesTrip]
      | _ => exact .refuses _ not_false (hnone _ nofun)

/-- The version of a mapping, or the default. -/
def versionOf (fields : List (Value × Value)) : Value :=
  (field? "version".toList fields).getD ({} : Config).version

/-- The configuration with settings that were read. -/
def assembled (version : Value) (os scripts searchVariable linkerConf : Option Text)
    (rules : Option Text × Option Text) : Config where
  version
  os := (os.filter (· ≠ [])).map Text.toLower
  scripts
  searchVariable := textOr ({} : Config).searchVariable searchVariable
  linkerConf := textOr ({} : Config).linkerConf linkerConf
  excludeDirs := rules.1
  excludeFiles := rules.2

/-- The settings are read one after another, once the version is known to be right. -/
theorem ofFields_eq (fields : List (Value × Value)) : ofFields fields =
    if (versionOf fields).isOne then
      textField "os" fields >>= fun os => scriptsField fields >>= fun scripts =>
      textField "search_env" fields >>= fun searchVariable =>
      textField "ld_so_conf" fields >>= fun linkerConf => excludeField fields >>= fun rules =>
      .ok (assembled (versionOf fields) os scripts searchVariable linkerConf rules)
    else .error (.config (.badVersion (versionOf fields).shown)) := by
  change (if !(versionOf fields).isOne then _ else _) = _
  by_cases h : (versionOf fields).isOne = true
  · rw [if_pos h, if_neg (by rw [h]; exact Bool.false_ne_true)]
    rfl
  · rw [if_neg h, if_pos (by rw [Bool.eq_false_iff.mpr h]; rfl)]
    rfl

/-- A mapping is judged by its settings. -/
theorem ofFields_judges (fields : List (Value × Value)) :
    Judges (Accepted fields) (Trips fields) (ofFields fields) := by
  -- A version that is missing has its default, which is the number one.
  have hversion : (versionOf fields).isOne = true ↔
      ∀ v, field? "version".toList fields = some v → v.IsOne := by
    unfold versionOf
    cases field? "version".toList fields with
    | none => exact iff_of_true rfl nofun
    | some v => simp [Value.isOne_iff]
  have hsettings := fun version => (textField_judges "os" fields).bind fun os _ =>
    (scriptsField_judges fields).bind fun scripts _ =>
    (textField_judges "search_env" fields).bind fun search _ =>
    (textField_judges "ld_so_conf" fields).bind fun linker _ =>
    (excludeField_judges fields).bind fun rules _ =>
    Judges.returns (assembled version os scripts search linker rules)
  rw [ofFields_eq]
  by_cases hone : (versionOf fields).isOne = true
  · rw [if_pos hone]
    rw [hversion] at hone
    refine (hsettings _).congr ⟨?_, ?_⟩ ⟨?_, ?_⟩
    · rintro ⟨hos, hscripts, hsearch, hlinker, hrules, _⟩
      exact ⟨⟨hone, hos, hscripts, hsearch, hlinker⟩, hrules⟩
    · rintro ⟨⟨_, hos, hscripts, hsearch, hlinker⟩, hrules⟩
      exact ⟨hos, hscripts, hsearch, hlinker, hrules, trivial⟩
    · rintro (h | ⟨hos, h | ⟨hscripts, h | ⟨hsearch, h | ⟨hlinker, hrules | ⟨_, h⟩⟩⟩⟩⟩)
      · exact h.elim
      · exact h.elim
      · exact h.elim
      · exact h.elim
      · exact ⟨⟨hone, hos, hscripts, hsearch, hlinker⟩, hrules⟩
      · exact h.elim
    · rintro ⟨⟨_, hos, hscripts, hsearch, hlinker⟩, hrules⟩
      exact Or.inr ⟨hos, Or.inr ⟨hscripts, Or.inr ⟨hsearch, Or.inr ⟨hlinker, Or.inl hrules⟩⟩⟩⟩
  · rw [if_neg hone]
    rw [hversion] at hone
    exact .refuses _ (fun h => hone h.version) (fun h => hone h.version)

/-- Rules that are the same, or mappings with the same rules in them. -/
inductive SameRules : Option Value → Option Value → Prop where
  | same (set : Option Value) : SameRules set set
  | maps (rules rules' : List (Value × Value))
    (hdirs : field? "dirs".toList rules' = field? "dirs".toList rules)
    (hfiles : field? "files".toList rules' = field? "files".toList rules) :
    SameRules (some (.map rules)) (some (.map rules'))

/-- The names of the settings, that of the rules apart. -/
def plainNames : List String := ["version", "os", "scripts", "search_env", "ld_so_conf"]

/-- Mappings with the same settings, whatever their other keys are. -/
structure SameSettings (fields fields' : List (Value × Value)) : Prop where
  plain : ∀ name ∈ plainNames, field? name.toList fields' = field? name.toList fields
  exclude : SameRules (field? "exclude".toList fields) (field? "exclude".toList fields')

/-- To set another key is to keep the settings. -/
theorem SameSettings.setField (fields : List (Value × Value)) (key value : Value)
    (hkey : ∀ name ∈ "exclude" :: plainNames, key ≠ .text name.toList) :
    SameSettings fields (Value.setField key value fields) := by
  have hfield : ∀ name ∈ "exclude" :: plainNames,
      field? name.toList (Value.setField key value fields) = field? name.toList fields :=
    fun name hname => Value.field?_setField_of_ne _ key value (hkey name hname) fields
  refine ⟨fun name hname => hfield name (List.mem_cons_of_mem _ hname), ?_⟩
  rw [hfield "exclude" List.mem_cons_self]
  exact .same _

/-- What is made of a mapping depends on its settings alone. -/
theorem ofFields_congr {fields fields' : List (Value × Value)} (h : SameSettings fields fields') :
    ofFields fields' = ofFields fields := by
  have htext : ∀ name ∈ plainNames, textField name fields' = textField name fields := by
    intro name hname
    unfold textField
    rw [h.plain name hname]
  have hversion : versionOf fields' = versionOf fields := by
    unfold versionOf
    rw [h.plain "version" (by decide)]
  have hscripts : scriptsField fields' = scriptsField fields := by
    unfold scriptsField
    rw [h.plain "scripts" (by decide)]
  have hexclude : excludeField fields' = excludeField fields := by
    have hrules := h.exclude
    unfold excludeField
    generalize field? "exclude".toList fields = set at hrules ⊢
    generalize field? "exclude".toList fields' = set' at hrules ⊢
    cases hrules with
    | same => rfl
    | maps rules rules' hdirs hfiles => simp only [hdirs, hfiles]
  rw [ofFields_eq, ofFields_eq, hversion, hscripts, hexclude, htext "os" (by decide),
    htext "search_env" (by decide), htext "ld_so_conf" (by decide)]

/-- The rule for directories that a mapping gives: the one for hidden directories, unless there is a
    mapping of rules that has another one or null. -/
def givenDirs (fields : List (Value × Value)) : Option Text :=
  match field? "exclude".toList fields with
  | some (.map rules) =>
    match field? "dirs".toList rules with
    | none => some hiddenDirs
    | some (.text rule) => some rule
    | some _ => none
  | _ => some hiddenDirs

/-- The rule for files that a mapping gives: none, unless there is a mapping of rules that has
    one. -/
def givenFiles (fields : List (Value × Value)) : Option Text :=
  match field? "exclude".toList fields with
  | some (.map rules) =>
    match field? "files".toList rules with
    | some (.text rule) => some rule
    | _ => none
  | _ => none

/-- A default that is not empty stays so when a text is set. -/
theorem textOr_ne_nil (otherwise : Text) (set : Option Text) (h : otherwise ≠ []) :
    textOr otherwise set ≠ [] := by
  unfold textOr
  cases set with
  | none => exact h
  | some t => by_cases ht : t = [] <;> simp [Option.filter, ht, h]

/-- Whether a rule that is set is the text of a pattern. -/
def Compiles (set : Option Text) : Prop :=
  ∀ rule, set = some rule → ∃ r, Regex.compile rule false = .ok r

/-- The text that a value is. -/
def asText : Value → Option Text
  | .text t => some t
  | _ => none

/-- A rule that is accepted is a pattern, and the one that was given. -/
theorem ruleText_eq_ok (name : Text) (v : Value) (set : Option Text)
    (h : ruleText name v = .ok set) : Compiles set ∧ set = asText v := by
  cases v with
  | null =>
      cases h
      exact ⟨nofun, rfl⟩
  | text rule =>
      rw [ruleText] at h
      cases hc : Regex.compile rule false with
      | ok r =>
          rw [hc] at h
          cases h
          refine ⟨fun rule' hrule => ?_, rfl⟩
          cases hrule
          exact ⟨r, hc⟩
      | error problem =>
          rw [hc] at h
          exact absurd h (by simp only; split <;> nofun)
  | _ => exact absurd h nofun

/-- Rules that are accepted are patterns, and those that were given. -/
theorem excludeField_eq_ok (fields : List (Value × Value)) (rules : Option Text × Option Text)
    (h : excludeField fields = .ok rules) :
    (Compiles rules.1 ∧ Compiles rules.2) ∧
      rules.1 = givenDirs fields ∧ rules.2 = givenFiles fields := by
  have hplain : (Compiles (some hiddenDirs) ∧ Compiles none) := by
    refine ⟨fun rule hrule => ?_, nofun⟩
    rw [← Option.some.inj hrule]
    exact isRule_hiddenDirs
  unfold excludeField at h
  unfold givenDirs givenFiles
  cases hset : field? "exclude".toList fields with
  | none =>
      rw [hset] at h
      cases h
      exact ⟨hplain, rfl, rfl⟩
  | some v =>
      rw [hset] at h
      cases v with
      | null =>
          cases h
          exact ⟨hplain, rfl, rfl⟩
      | map given =>
          simp only [bind_eq_ok_iff] at h
          rcases h with ⟨dirs, hdirs, files, hfiles, hrules⟩
          cases hrules
          rcases ruleText_eq_ok _ _ _ hdirs with ⟨hcdirs, hdirs⟩
          rcases ruleText_eq_ok _ _ _ hfiles with ⟨hcfiles, hfiles⟩
          subst hdirs hfiles
          refine ⟨⟨hcdirs, hcfiles⟩, ?_, ?_⟩
          · simp only
            cases field? "dirs".toList given with
            | none => rfl
            | some v => cases v <;> rfl
          · simp only
            cases field? "files".toList given with
            | none => rfl
            | some v => cases v <;> rfl
      | _ => exact absurd h nofun

/-- What is known of a configuration that a mapping gives. -/
theorem ofFields_eq_ok (fields : List (Value × Value)) (c : Config)
    (h : ofFields fields = .ok c) :
    (Compiles c.excludeDirs ∧ Compiles c.excludeFiles) ∧
      c.searchVariable ≠ [] ∧ c.linkerConf ≠ [] ∧
      c.excludeDirs = givenDirs fields ∧ c.excludeFiles = givenFiles fields := by
  rw [ofFields_eq] at h
  split at h
  · simp only [bind_eq_ok_iff] at h
    rcases h with ⟨os, _, scripts, _, searchVariable, _, linkerConf, _, rules, hrules, hc⟩
    cases hc
    rcases excludeField_eq_ok fields rules hrules with ⟨hcompile, hgiven⟩
    exact ⟨hcompile, textOr_ne_nil _ _ (by decide), textOr_ne_nil _ _ (by decide), hgiven⟩
  · exact absurd h nofun

end Config

/-- An engine can be made from a configuration whose rules are patterns, and has these rules. -/
theorem Engine.make_of_compiles (c : Config) (hdirs : Config.Compiles c.excludeDirs)
    (hfiles : Config.Compiles c.excludeFiles) (host : Host) (hostOs : Option Text) :
    ∃ e, Engine.make c host hostOs = .ok e ∧
      Engine.ruleOf c.excludeDirs = .ok e.matcher.dirRule ∧
      Engine.ruleOf c.excludeFiles = .ok e.matcher.fileRule := by
  have hrule : ∀ set : Option Text, Config.Compiles set → ∃ r, Engine.ruleOf set = .ok r := by
    intro set hset
    cases set with
    | none => exact ⟨none, rfl⟩
    | some rule =>
        rcases hset rule rfl with ⟨r, hr⟩
        exact ⟨some r, by rw [Engine.ruleOf, hr]; rfl⟩
  rcases hrule _ hdirs with ⟨dirRule, hdir⟩
  rcases hrule _ hfiles with ⟨fileRule, hfile⟩
  unfold Engine.make
  rw [hdir, hfile]
  exact ⟨_, rfl, rfl, rfl⟩

/-- A mapping is a configuration just if its settings are of their kinds. What is made of it, be it
    a problem, depends on its settings alone, so that setting another key changes nothing. From a
    configuration that a mapping gives an engine can be made on every host, with the rules that the
    mapping gives; its variable for searches and its linker configuration have names. -/
theorem Config.ofFields_exact (fields : List (Value × Value)) :
    ((∃ c, Config.ofFields fields = .ok c) ↔ Config.Accepted fields) ∧
    (∀ fields', Config.SameSettings fields fields' →
      Config.ofFields fields' = Config.ofFields fields) ∧
    (∀ key value, (∀ name ∈ "exclude" :: Config.plainNames, key ≠ .text name.toList) →
      Config.ofFields (Value.setField key value fields) = Config.ofFields fields) ∧
    ∀ c, Config.ofFields fields = .ok c →
      (∀ host hostOs, ∃ e, Engine.make c host hostOs = .ok e ∧
        Engine.ruleOf c.excludeDirs = .ok e.matcher.dirRule ∧
        Engine.ruleOf c.excludeFiles = .ok e.matcher.fileRule) ∧
      c.searchVariable ≠ [] ∧ c.linkerConf ≠ [] ∧
      c.excludeDirs = Config.givenDirs fields ∧ c.excludeFiles = Config.givenFiles fields := by
  refine ⟨(Config.ofFields_judges fields).accepts_iff, fun _ => Config.ofFields_congr,
    fun key value hkey => Config.ofFields_congr (.setField fields key value hkey), fun c hc => ?_⟩
  rcases Config.ofFields_eq_ok fields c hc with ⟨⟨hdirs, hfiles⟩, hrest⟩
  exact ⟨fun host hostOs => Engine.make_of_compiles c hdirs hfiles host hostOs, hrest⟩

-- A rule that is null is none at all, and one that is missing has its default.
example : ((Config.ofFields [(.text "version".toList, .bool true),
      (.text "exclude".toList, .map [(.text "dirs".toList, .null)])]).toOption.map
        fun c => (c.excludeDirs, c.excludeFiles)) = some (none, none) ∧
    ((Config.ofFields [(.text "exclude".toList, .map [])]).toOption.map
      fun c => (c.excludeDirs, c.excludeFiles)) = some (some hiddenDirs, none) := by decide

end Maskwalk

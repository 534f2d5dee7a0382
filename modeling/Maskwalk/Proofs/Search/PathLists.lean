import Maskwalk.Proofs.Config.Fields
import Maskwalk.Proofs.Search.Scripts

/-!
# Lists of scripts as path lists

A configuration may give the path of scripts as a list of directories. The list is written as one
text, with a semicolon between neighbours, and a search splits that text again. The two do not know
of each other: what is written does not depend on the host, but a colon separates on all hosts but
those that run Windows, and what is split has no empty entries.

So a list comes back as it was just if each of its entries is one that splitting can give, and all
else that can be said follows from one equation: to split the text of a list is to split its
entries, one after another (`splitList_joined`).

## Main definitions

* `IsEntry`: the texts that can be entries of a path list on a host.
* `Config.listOnly`: the mapping that has nothing but a list of scripts.

## Theorems

* `splitList_joined`: The text of a list is split entry by entry.
* `splitList_joined_eq_iff`: When a list comes back as it was.
* `Config.scripts_of_list`: The path of scripts of a configuration that gives a list.
* `Session.scripts_split`: What a session makes of it.
-/

namespace Maskwalk

/-- Whether a text can be an entry of a path list on a host: it is not empty, it has no semicolon,
    and no colon either unless the host runs Windows. -/
def IsEntry (hostOs t : Text) : Prop := t ≠ [] ∧ ';' ∉ t ∧ (hostOs = windows ∨ ':' ∉ t)

instance (hostOs t : Text) : Decidable (IsEntry hostOs t) := inferInstanceAs (Decidable (_ ∧ _ ∧ _))

/-- An entry is not empty and holds nothing that separates. -/
theorem isEntry_iff (hostOs t : Text) :
    IsEntry hostOs t ↔ t ≠ [] ∧ ∀ c ∈ t, separates (decide (hostOs = windows)) c = false := by
  refine and_congr_right fun _ => ⟨?_, fun h => ⟨fun hc => ?_, ?_⟩⟩
  · rintro ⟨hsemicolon, hcolon⟩ c hc
    have hne : c ≠ ';' := fun h => hsemicolon (h ▸ hc)
    have hcolon' : hostOs ≠ windows → c ≠ ':' := fun hhost h => hcolon.resolve_left hhost (h ▸ hc)
    by_cases hhost : hostOs = windows
    · simp [separates, hne, hhost]
    · simp [separates, hne, hcolon' hhost]
  · exact absurd (h _ hc) (by simp [separates])
  · by_cases hhost : hostOs = windows
    · exact Or.inl hhost
    · exact Or.inr fun hc => absurd (h _ hc) (by simp [separates, hhost])

section

variable (onWindows : Bool)

/-- What a path list is split into is not empty and holds nothing that separates. -/
theorem proper_of_mem_splitList (list : Text) : ∀ d ∈ splitList onWindows list,
    d ≠ [] ∧ ∀ c ∈ d, separates onWindows c = false := by
  intro d hd
  rcases List.mem_filter.mp hd with ⟨hpiece, hne⟩
  exact ⟨of_decide_eq_true hne, Text.pieces_free list d hpiece⟩

/-- A list that is written with semicolons is split entry by entry. -/
theorem splitList_joined (ds : List Text) :
    splitList onWindows (Text.joined [';'] ds) = ds.flatMap (splitList onWindows) := by
  induction ds with
  | nil => rfl
  | cons d more ih =>
      rw [List.flatMap_cons]
      by_cases hmore : more = []
      · rw [hmore]
        exact (List.append_nil _).symm
      · rw [Text.joined_cons _ _ _ hmore, List.append_assoc, List.singleton_append, splitList,
          Text.pieces_append _ _ ';' (by simp [separates]), List.filter_append, ← ih]
        rfl

/-- So it comes back as it was just if nothing in it can be split and nothing is empty. -/
theorem splitList_joined_eq_iff (ds : List Text) :
    splitList onWindows (Text.joined [';'] ds) = ds ↔
      ∀ d ∈ ds, d ≠ [] ∧ ∀ c ∈ d, separates onWindows c = false := by
  constructor
  · intro h d hd
    rw [← h] at hd
    exact proper_of_mem_splitList onWindows _ d hd
  · intro h
    have hsingle : ∀ d ∈ ds, splitList onWindows d = [d] := fun d hd =>
      splitList_of_free onWindows d (h d hd).1 (h d hd).2
    rw [splitList_joined, List.flatMap_congr hsingle, List.flatMap_singleton']

end

namespace Config

/-- The mapping that has nothing but a list of scripts. -/
def listOnly (ds : List Text) : List (Value × Value) :=
  [(.text "scripts".toList, .list (ds.map .text))]

theorem allTexts_map (ds : List Text) : allTexts (ds.map .text) = some ds := by
  induction ds with
  | nil => rfl
  | cons d more ih => rw [List.map_cons, allTexts, ih, Option.map_some]

section

variable {fields : List (Value × Value)} {ds : List Text}
  (hscripts : Value.field? "scripts".toList fields = some (.list (ds.map .text)))

include hscripts

/-- A list of scripts is written with semicolons, -/
theorem scriptsField_of_list :
    scriptsField fields = .ok (some (Text.joined [';'] ds)) := by
  unfold scriptsField
  rw [hscripts]
  simp only [allTexts_map]

/-- and so it is in a configuration. -/
theorem scripts_of_list (c : Config) (hc : ofFields fields = .ok c) :
    c.scripts = some (Text.joined [';'] ds) := by
  rw [ofFields_eq] at hc
  split at hc
  · rw [scriptsField_of_list hscripts] at hc
    simp only [bind_eq_ok_iff] at hc
    rcases hc with ⟨os, _, scripts, hgiven, _, _, _, _, _, _, hc⟩
    rw [← Except.ok.inj hc, ← Except.ok.inj hgiven]
    rfl
  · exact absurd hc nofun

end

/-- A list of scripts alone makes a configuration. -/
theorem ofFields_listOnly (ds : List Text) : ∃ c, ofFields (listOnly ds) = .ok c := by
  have hversion : (versionOf (listOnly ds)).isOne = true := rfl
  have hos : textField "os" (listOnly ds) = .ok none := rfl
  have hsearch : textField "search_env" (listOnly ds) = .ok none := rfl
  have hlinker : textField "ld_so_conf" (listOnly ds) = .ok none := rfl
  have hrules : excludeField (listOnly ds) = .ok (some hiddenDirs, none) := rfl
  rw [ofFields_eq, if_pos hversion, hos, @scriptsField_of_list (listOnly ds) ds rfl, hsearch,
    hlinker, hrules]
  exact ⟨_, rfl⟩

end Config

namespace Session

/-- Every list of scripts makes a configuration, alone and with other settings that are accepted,
    and what is set there is one text. A session on any host splits this text into entries of a path
    list on its host, which are those that it splits the entries of the list into, one after
    another. They are the list that was given just if each entry of that can be one of a path
    list. -/
theorem scripts_split (ds : List Text) :
    (∃ c, Config.ofFields (Config.listOnly ds) = .ok c) ∧
    ∀ (fields : List (Value × Value)) (c : Config),
      Value.field? "scripts".toList fields = some (.list (ds.map .text)) →
      Config.ofFields fields = .ok c →
      ∃ list, c.scripts = some list ∧
        ∀ {σ : Type} [World σ] (s : Session σ), ∃ split : Text → List Path,
          (∀ t, (s.perform (.splitList t)).1.result = .ok (.texts (split t))) ∧
          (split list = ds ↔ ∀ d ∈ ds, IsEntry s.engine.platform.hostOs d) ∧
          (∀ d ∈ split list, IsEntry s.engine.platform.hostOs d) ∧
          split list = ds.flatMap split := by
  refine ⟨Config.ofFields_listOnly ds, fun fields c hscripts hc => ?_⟩
  refine ⟨_, Config.scripts_of_list hscripts c hc, fun s => ?_⟩
  refine ⟨splitList s.engine.searcher.onWindows, fun t => rfl, ?_⟩
  simp only [isEntry_iff]
  exact ⟨splitList_joined_eq_iff _ ds, proper_of_mem_splitList _ _, splitList_joined _ ds⟩

/-- A mapping with a list of scripts, one of which has a colon. -/
def withDrive : List (Value × Value) := [
  (.text "os".toList, .text "Haiku".toList),
  (.text "scripts".toList, .list [.text "C:/s".toList, .text "t".toList])]

theorem scripts_split_drive :
    Value.field? "scripts".toList withDrive =
      some (.list (["C:/s".toList, "t".toList].map .text)) ∧
    ∃ c list, Config.ofFields withDrive = .ok c ∧ c.scripts = some list ∧
      ∃ split : Text → List Path,
        (∀ t, (onGrove.perform (.splitList t)).1.result = .ok (.texts (split t))) ∧
        split list ≠ ["C:/s".toList, "t".toList] ∧
        split list = ["C:/s".toList, "t".toList].flatMap split := by
  have hfield : Value.field? "scripts".toList withDrive =
      some (.list (["C:/s".toList, "t".toList].map .text)) := rfl
  have hc : ∃ c, Config.ofFields withDrive = .ok c := ⟨_, rfl⟩
  rcases hc with ⟨c, hc⟩
  rcases (scripts_split ["C:/s".toList, "t".toList]).2 withDrive c hfield hc with
    ⟨list, hlist, hsplit⟩
  rcases hsplit onGrove with ⟨split, hanswer, hsame, _, hentries⟩
  refine ⟨hfield, c, list, hc, hlist, split, hanswer, fun h => ?_, hentries⟩
  exact absurd (hsame.mp h) (by decide)

-- On a host that runs Windows the same list comes back as it was.
example : splitList true (Text.joined [';'] ["C:/s".toList, "t".toList]) =
    ["C:/s".toList, "t".toList] := by decide

end Session

end Maskwalk

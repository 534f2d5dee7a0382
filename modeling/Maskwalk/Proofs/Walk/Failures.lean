import Maskwalk.Proofs.Walk.Ending
import Maskwalk.Proofs.Walk.Matching

/-!
# Listings that fail

Every directory of a walk is listed, a deep walk lists it twice, and any of these listings can fail.
Where the directory is missing this is as if it were empty. Any other failure is an answer to the
whole match at its first listing, that of the directory where the mask starts, and is passed over at
every other one.

What is passed over leaves no mark on the results. In the world where every directory that cannot be
listed is empty instead, nothing fails, and what a walk is shown is the same in both. So the two
walks have one tour. They may be given up at different depths, since names that cannot be seen are
counted by the depth of the first world alone; but a walk that ends is never given up.

## Main definitions

* `Keyed.emptied`: the world with an empty directory for each that cannot be listed.

## Theorems

* `entriesAt_emptied`: What a walk is shown in that world.
* `opened_error_iff`: When a walk fails at its start.
* `Ends.matched_emptied`: A walk that ends finds the same in both worlds.
* `matching_failures`: What comes of failed listings.
-/

namespace Maskwalk

open Attempt

namespace Keyed

/-- The world in which every directory that cannot be listed is empty instead. -/
def emptied (w : Keyed) : Keyed :=
  { w with
    dirs := w.dirs.map fun entry => (entry.1, if w.mayList entry.1 then entry.2 else [])
    denied := []
    faults := [] }

theorem names?_emptied (w : Keyed) (d : Path) :
    w.emptied.names? d = (w.names? d).map fun names => if w.mayList d then names else [] :=
  valueOf?_mapped w.dirs d fun d names => if w.mayList d then names else []

theorem shown_emptied (w : Keyed) (d : Path) : w.emptied.shown d = w.shown d := by
  rw [shown, if_pos (w.emptied.mayList_of_nil rfl rfl d), names?_emptied, shown]
  by_cases hm : w.mayList d = true
  · simp only [hm, if_true, Option.map_id']
  · simp only [hm, Bool.false_eq_true, if_false]
    cases w.names? d <;> rfl

theorem hasDir_emptied (w : Keyed) (d : Path) : w.emptied.hasDir d = w.hasDir d := by
  change (w.emptied.names? d).isSome = (w.names? d).isSome
  rw [names?_emptied, Option.isSome_map]

/-- A walk is shown the same whether a directory cannot be listed or is empty. -/
theorem entriesAt_emptied (w : Keyed) : w.emptied.entriesAt = w.entriesAt := by
  funext dir
  rw [entriesAt_eq, entriesAt_eq, shown_emptied]
  refine List.map_congr_left (fun n _ => ?_)
  rw [entryOf, entryOf, hasDir_emptied]
  rfl

/-- A walk fails at its start just if the listing there fails otherwise than for a directory that
    is missing. -/
theorem opened_error_iff (w : Keyed) (dir : Path) (fault : Fault) :
    w.opened true dir = .error fault ↔ ∃ why, w.listReply (Path.normalize dir) = .error why ∧
      why.isAbsence = false ∧ fault = .unlistable (named dir) why.cause := by
  unfold opened
  cases w.listReply (Path.normalize dir) with
  | ok entries => simp only [reduceCtorEq, false_and, exists_false]
  | error why =>
      simp only [Bool.not_true, Bool.or_false, Except.error.injEq]
      cases hab : why.isAbsence with
      | true =>
          simp only [if_true, reduceCtorEq, false_iff]
          rintro ⟨other, hother, hpresent, _⟩
          rw [← hother, hab] at hpresent
          exact absurd hpresent (by decide)
      | false =>
          simp only [Bool.false_eq_true, if_false, Except.error.injEq]
          constructor
          · exact fun h => ⟨why, rfl, hab, h.symm⟩
          · rintro ⟨other, hother, _, hfault⟩
            rw [hother, hfault]

/-- A walk that ends finds what it finds where the directories that cannot be listed are empty,
    unless it fails at its start. -/
theorem Ends.matched_emptied {w : Keyed} {s : Selection} {depth : Nat} {start : Path}
    (h : w.Ends s depth start) (entries : List Entry) (hopen : w.opened true start = .ok entries) :
    ∃ found, w.matched s start = .ok found ∧ w.emptied.matched s start = .ok found := by
  rcases h.within_depth with ⟨dirs, ht⟩
  have hends : w.emptied.Ends s (w.depth + 1) start := ⟨dirs, by rw [entriesAt_emptied, ht]⟩
  rcases hends.within_depth with ⟨dirs', ht'⟩
  -- Both tours are the tour at the larger of the two depths.
  have hsame : dirs' = dirs := by
    have hlarge := s.tour_mono _ _ (max (w.depth + 1) (w.emptied.depth + 1)) (Nat.le_max_left _ _)
      start dirs ht
    rw [entriesAt_emptied] at ht'
    have hlarge' := s.tour_mono _ _ (max (w.depth + 1) (w.emptied.depth + 1)) (Nat.le_max_right _ _)
      start dirs' ht'
    exact Option.some.inj (hlarge'.symm.trans hlarge)
  have hkept : w.emptied.keptAt s = w.keptAt s := by
    funext dir
    rw [keptAt, keptAt, entriesAt_emptied]
  refine ⟨dirs.flatMap (w.keptAt s), ?_, ?_⟩
  · rw [matched, hopen, ht]
    rfl
  · rw [matched, w.emptied.opened_of_mayList true start (w.emptied.mayList_of_nil rfl rfl _), ht',
      hsame]
    change Except.ok (dirs.flatMap (w.emptied.keptAt s)) = _
    rw [hkept]

end Keyed

section

variable (m : Matcher) (mask : Path) (files : Bool) (dirRule fileRule : Option Rule)
  (rd rf : Option Regex) (w : Keyed)

/-- A match in a world of any kind, with whatever is denied or faulty there, whose walk comes to an
    end at some depth, however large. It is a fault just if the first listing, that of the directory
    where the mask starts, is refused for another reason than that there is no such directory; the
    fault names that directory, the current one as a dot, and tells the reason. Otherwise the match
    comes to a result, and to the same one as in the world where every directory that cannot be
    listed is empty instead. -/
theorem matching_failures (hd : Rule.inForce m.dirRule dirRule = .ok rd)
    (hf : Rule.inForce m.fileRule fileRule = .ok rf)
    (hends : ∃ depth, ((walk (m.selection (Path.normalize mask) files rd rf) depth true
      (Mask.start (Path.normalize mask))).ran w).result ≠ .error .endless) :
    let start := Mask.start (Path.normalize mask)
    let first := ((Request.listDir start).settled w).1
    let result := fun w => ((m.matching mask files dirRule fileRule).ran w).result
    (∀ fault, result w = .error fault ↔ ∃ why, first = .error why ∧ why.isRefusal = true ∧
      why.isAbsence = false ∧ fault = .unlistable (named start) why.cause) ∧
    ((∀ why, first = .error why → why.isAbsence = true) →
      ∃ found, result w = .ok found ∧ result w.emptied = .ok found) := by
  intro start first result
  have hresult : ∀ w : Keyed, result w
      = w.matched (m.selection (Path.normalize mask) files rd rf) start := fun w =>
    (m.matching_reads mask files dirRule fileRule rd rf w hd hf).result
  have hfirst : first = w.listReply (Path.normalize start) := by
    rcases w.settled_listDir start with ⟨calls, hs⟩
    change ((Request.listDir start).settled w).1 = _
    rw [hs]
  rcases hends with ⟨depth, hends⟩
  have hfailed := w.opened_error_iff start
  have hrefusal := w.isRefusal_of_listReply (Path.normalize start)
  rw [hresult, hresult, hfirst]
  cases ho : w.opened true start with
  | ok entries =>
      rcases (Keyed.ends_of_walk depth start entries ho hends).matched_emptied entries ho with
        ⟨found, hfound, hfound'⟩
      rw [hfound, hfound']
      refine ⟨fun fault => ?_, fun _ => ⟨found, rfl, rfl⟩⟩
      simp only [reduceCtorEq, false_iff]
      rintro ⟨why, hwhy, _, hpresent, hfault⟩
      exact absurd ((hfailed fault).mpr ⟨why, hwhy, hpresent, hfault⟩)
        (by rw [ho]; simp only [reduceCtorEq, not_false_eq_true])
  | error fault =>
      rcases (hfailed fault).mp ho with ⟨why, hwhy, hpresent, hfault⟩
      have hmatched : w.matched (m.selection (Path.normalize mask) files rd rf) start
          = .error fault := by rw [Keyed.matched, ho]
      rw [hmatched]
      refine ⟨fun other => ?_, fun habsent => ?_⟩
      · rw [← hmatched, Keyed.matched, ho, Except.error.injEq]
        constructor
        · exact fun h => ⟨why, hwhy, hrefusal why hwhy, hpresent, by rw [← h, hfault]⟩
        · rintro ⟨why', hwhy', _, _, hother⟩
          rw [hwhy, Except.error.injEq] at hwhy'
          rw [hother, hfault, hwhy']
      · rw [habsent why hwhy] at hpresent
        exact absurd hpresent (by decide)

end

/-- In the grove a directory further down can be denied; then its file is not found, and what is
    next to it is. The directory where a mask starts can have a fault; then that is the answer. -/
theorem matching_failures_grove :
    let search := fun (mask : Path) (w : Keyed) =>
      (((⟨true, none, none⟩ : Matcher).matching mask true none none).ran w).result
    search "a/**".toList { Keyed.grove with denied := [['a', '/', 'b']] } = .ok ["a/f".toList] ∧
    search "a/**".toList { Keyed.grove with faults := [(['a'], "no such luck".toList)] }
      = .error (.unlistable ['a'] "no such luck".toList) ∧
    search "f*".toList { Keyed.grove with denied := [[]] }
      = .error (.unlistable ['.'] "Permission denied".toList) := by
  intro search
  have hdenied := matching_failures ⟨true, none, none⟩ "a/**".toList true none none none none
    { Keyed.grove with denied := [['a', '/', 'b']] } rfl rfl ⟨3, by decide⟩
  have hfault := matching_failures ⟨true, none, none⟩ "a/**".toList true none none none none
    { Keyed.grove with faults := [(['a'], "no such luck".toList)] } rfl rfl ⟨1, by decide⟩
  have hhere := matching_failures ⟨true, none, none⟩ "f*".toList true none none none none
    { Keyed.grove with denied := [[]] } rfl rfl ⟨1, by decide⟩
  refine ⟨?_, ?_, ?_⟩
  · rcases hdenied.2 (fun why hwhy => by
      have hlisted : (((Request.listDir (Mask.start (Path.normalize "a/**".toList))).settled
          { Keyed.grove with denied := [['a', '/', 'b']] }).1).isOk = true := by decide
      rw [hwhy] at hlisted
      exact absurd hlisted Bool.false_ne_true) with ⟨found, hfound, hsame⟩
    -- It is found what would be found if the directory were empty.
    have hempty : search "a/**".toList
        (Keyed.emptied { Keyed.grove with denied := [['a', '/', 'b']] }) = .ok ["a/f".toList] := by
      decide
    exact hfound.trans (hsame.symm.trans hempty)
  · exact (hfault.1 _).mpr ⟨.other "no such luck".toList, rfl, rfl, rfl, rfl⟩
  · exact (hhere.1 _).mpr ⟨.system .denied [], rfl, rfl, rfl, rfl⟩

end Maskwalk

import Maskwalk.Proofs.Asking
import Maskwalk.Proofs.Mask.Inside
import Maskwalk.Proofs.World.Consistent
import Maskwalk.Walk

/-!
# What walks ask

A walk asks for listings and for nothing else. What it finds is read off the replies: if whatever is
listed in a directory of some sort is found to be right, and the directories below are of this sort
too, then all that a walk finds is right. This is proved once, for any terms that allow listing.
Two cases of it are wanted: that a match asks for no change, whatever the replies are, and that it
finds inner paths if listings are fair.

## Theorems

* `walk_keeps`, `Matcher.matching_keeps`: What a walk, and a match, finds under given terms.
* `Matcher.matching_quiet`: A match asks for no change.
* `Matcher.matching_inner`: A match finds inner paths.
-/

namespace Maskwalk

open Attempt

section

variable {t : Terms} (ht : t.AllowsListing)

include ht

/-- A listing is empty or a fair reply. -/
theorem listing_keeps {post : List Entry → Prop} (isStart : Bool) (dir : Path) (hnil : post [])
    (hlist : ∀ entries, t.fair (.listDir dir) (.ok entries) → post entries) :
    (listing isStart dir).Keeps t post := by
  refine Keeps.bind (Keeps.request (ht.listDir dir) fun reply hr => hr) fun reply hr => ?_
  cases reply with
  | ok entries => exact Keeps.pure (hlist entries hr)
  | error why =>
      simp only
      split
      · exact Keeps.pure hnil
      split
      · exact Keeps.throw _
      split
      · exact Keeps.throw _
      · exact Keeps.bind (Keeps.notice trivial) fun _ (_ : True) => Keeps.pure hnil

omit ht in
theorem gather_keeps {found : Path → Prop} (visit : Path → Attempt (List Path)) (dirs : List Path)
    (hvisit : ∀ dir ∈ dirs, (visit dir).Keeps t fun paths => ∀ p ∈ paths, found p) :
    (gather visit dirs).Keeps t fun paths => ∀ p ∈ paths, found p := by
  induction dirs with
  | nil => exact Keeps.pure fun p hp => absurd hp List.not_mem_nil
  | cons dir more ih =>
      refine Keeps.bind (hvisit dir List.mem_cons_self) fun here hhere => ?_
      refine Keeps.bind (ih fun d hd => hvisit d (List.mem_cons_of_mem _ hd)) fun there hthere => ?_
      exact Keeps.pure fun p hp => (List.mem_append.mp hp).elim (hhere p) (hthere p)

variable (s : Selection) {sort found : Path → Prop}
  (hlist : ∀ dir entries, sort dir → t.fair (.listDir dir) (.ok entries) →
    (∀ p ∈ s.kept dir entries, found p) ∧ ∀ p ∈ s.entered dir entries, sort p)

include hlist

/-- What a walk finds is right, if what is listed in a directory of some sort is, and if walking on
    leads to directories of this sort. -/
theorem walk_keeps : ∀ (depth : Nat) (isStart : Bool) (dir : Path), sort dir →
    (walk s depth isStart dir).Keeps t fun paths => ∀ p ∈ paths, found p := by
  intro depth
  induction depth with
  | zero => exact fun _ _ _ => Keeps.throw _
  | succ depth ih =>
      intro isStart dir hdir
      have hlisting : ∀ isStart, (listing isStart dir).Keeps t fun entries =>
          (∀ p ∈ s.kept dir entries, found p) ∧ ∀ p ∈ s.entered dir entries, sort p :=
        fun isStart => listing_keeps ht isStart dir
          ⟨fun p hp => absurd hp List.not_mem_nil, fun p hp => absurd hp List.not_mem_nil⟩
          fun entries => hlist dir entries hdir
      refine Keeps.bind (hlisting isStart) fun entries hown => ?_
      simp only
      split
      · refine Keeps.bind (hlisting false) fun again hagain => ?_
        refine Keeps.bind (gather_keeps _ _ fun d hd => ih false d (hagain.2 d hd))
          fun below hbelow => ?_
        exact Keeps.pure fun p hp => (List.mem_append.mp hp).elim (hown.1 p) (hbelow p)
      · exact Keeps.pure hown.1

end

theorem Matcher.ruleOr_keeps {t : Terms} (set : Option Regex) (given : Option Rule) :
    (Matcher.ruleOr set given).Keeps t fun _ => True := by
  cases given with
  | none => exact Keeps.pure trivial
  | some rule =>
      unfold Matcher.ruleOr
      simp only
      split
      · exact Keeps.pure trivial
      · exact Keeps.throw _

/-- What a match finds is right, if what is listed in a directory of some sort is, whatever is
    selected there. -/
theorem Matcher.matching_keeps {t : Terms} (ht : t.AllowsListing) (sort found : Path → Prop)
    (hlist : ∀ (s : Selection) dir entries, sort dir → t.fair (.listDir dir) (.ok entries) →
      (∀ p ∈ s.kept dir entries, found p) ∧ ∀ p ∈ s.entered dir entries, sort p)
    (m : Matcher) (mask : Path) (files : Bool) (dirRule fileRule : Option Rule)
    (hstart : sort (Mask.start (Path.normalize mask))) :
    (m.matching mask files dirRule fileRule).Keeps t fun paths => ∀ p ∈ paths, found p := by
  refine Keeps.bind (ruleOr_keeps _ _) fun dirs _ => ?_
  refine Keeps.bind (ruleOr_keeps _ _) fun names _ => ?_
  refine Keeps.bind (Keeps.notice trivial) fun _ (_ : True) => ?_
  refine Keeps.bind (Keeps.request ht.depth fun _ _ => trivial) fun depth (_ : True) => ?_
  exact walk_keeps ht _ (hlist _) (depth + 1) true _ hstart

/-- A match keeps all terms that allow listing. -/
theorem Matcher.matching_listing {t : Terms} (ht : t.AllowsListing) (m : Matcher) (mask : Path)
    (files : Bool) (dirRule fileRule : Option Rule) :
    (m.matching mask files dirRule fileRule).Keeps t fun _ => True :=
  (Matcher.matching_keeps ht (fun _ => True) (fun _ => True)
    (fun _ _ _ _ _ => ⟨fun _ _ => trivial, fun _ _ => trivial⟩) m mask files dirRule fileRule
    trivial).weaken fun _ _ => trivial

/-- A match asks for no change. -/
theorem Matcher.matching_quiet (m : Matcher) (mask : Path) (files : Bool)
    (dirRule fileRule : Option Rule) : (m.matching mask files dirRule fileRule).Quiet :=
  m.matching_listing Terms.quiet_allowsReading.listing mask files dirRule fileRule

/-- If listings are fair, a match finds inner paths. -/
theorem Matcher.matching_inner (m : Matcher) (mask : Path) (files : Bool)
    (dirRule fileRule : Option Rule) :
    (m.matching mask files dirRule fileRule).Keeps Terms.careful
      fun paths => ∀ p ∈ paths, Path.IsInner p := by
  refine Matcher.matching_keeps careful_allowsQueries.reading.listing
    (fun dir => Path.normalize dir = dir) _ (fun s dir entries hdir hfair => ?_) m mask files
    dirRule fileRule (Mask.normalize_start mask)
  have hinner : ∀ e ∈ entries, e.isFile = true ∨ e.isDir = true →
      Path.IsInner (Path.join dir e.name) := by
    intro e he hkind
    have h := hfair e he hkind
    rw [hdir] at h
    exact h
  refine ⟨fun p hp => ?_, fun p hp => ?_⟩
  · rcases List.mem_map.mp hp with ⟨e, he, heq⟩
    rcases List.mem_filter.mp he with ⟨he, hkeeps⟩
    rw [← heq]
    refine hinner e he ?_
    rw [Selection.keeps, Bool.and_eq_true, Selection.wants] at hkeeps
    have hwants := hkeeps.1
    split at hwants
    · exact Or.inl (Bool.and_eq_true_iff.mp hwants).1
    · exact Or.inr (Bool.and_eq_true_iff.mp hwants).1
  · rcases List.mem_map.mp hp with ⟨e, he, heq⟩
    rcases List.mem_filter.mp he with ⟨he, henters⟩
    rw [Selection.enters, Bool.and_eq_true, Bool.and_eq_true] at henters
    rw [← heq]
    exact (hinner e he (Or.inr henters.1.1)).normal

end Maskwalk

import Maskwalk.Proofs.Search.Includes

/-!
# Reading that ends

Only in an ordinary world is it certain that reading the linker's configuration ends. In others a
mask of an include line can lead in circles, and a walk that goes in circles is given up. But that
is all that can go wrong, in whatever world of keys: a text or a directory that cannot be read is
passed over, so reading comes either to lines or to no end. What it comes to depends on the world
and not on what was asked of it before.

## Main definitions

* `Attempt.Steady`: attempts that only read, and at worst have no end.

## Theorems

* `Steady.bind`: Attempts in a row.
* `linkerDirs_steady`: Reading the linker's configuration.
-/

namespace Maskwalk

namespace Attempt

variable {α β : Type}

/-- An attempt that only reads in a world, comes to the same whatever is recorded there, and ends in
    no fault but that it has no end. -/
def Steady (a : Attempt α) (w : Keyed) : Prop :=
  ∃ r, (∀ calls, Reads a { w with calls } r) ∧ ∀ fault, r = .error fault → fault = .endless

namespace Steady

variable {w : Keyed}

theorem pure (x : α) : Steady (Pure.pure x) w :=
  ⟨.ok x, fun _ => Reads.pure x _,
    fun _ h => absurd h (by simp only [reduceCtorEq, not_false_eq_true])⟩

theorem endless : Steady (throw .endless : Attempt α) w :=
  ⟨.error .endless, fun _ => Reads.fault _ _, fun _ h => (Except.error.inj h).symm⟩

/-- What goes on from a result that is known. -/
theorem bind_ok {a : Attempt α} {f : α → Attempt β} {x : α}
    (ha : ∀ calls, Reads a { w with calls } (.ok x)) (hf : Steady (f x) w) :
    Steady (a >>= f) w := by
  rcases hf with ⟨r, hr, hfault⟩
  exact ⟨r, fun calls => (ha calls).bind_ok hr, hfault⟩

theorem bind {a : Attempt α} {f : α → Attempt β} (ha : Steady a w) (hf : ∀ x, Steady (f x) w) :
    Steady (a >>= f) w := by
  rcases ha with ⟨r, hr, hfault⟩
  cases r with
  | ok x => exact bind_ok hr (hf x)
  | error fault =>
      exact ⟨.error fault, fun calls => (hr calls).bind_error, fun _ h => hfault _
        (by rw [Except.error.inj h])⟩

/-- What is said first. -/
theorem said (n : Notice) {a : Attempt α} (ha : Steady a w) :
    Steady (Attempt.notice n >>= fun _ => a) w :=
  bind_ok (fun _ => Reads.notice n _) ha

end Steady

end Attempt

open Attempt

/-- A selection comes to something unless its start cannot be listed or it has no end. -/
theorem Keyed.matched_faults (w : Keyed) (s : Selection) (start : Path) (fault : Fault)
    (h : w.matched s start = .error fault) :
    (∃ dir cause, fault = .unlistable dir cause) ∨ fault = .endless := by
  unfold Keyed.matched at h
  cases ho : w.opened true start with
  | error why =>
      rw [ho, Except.error.injEq] at h
      unfold Keyed.opened at ho
      split at ho
      · exact absurd ho (by simp only [reduceCtorEq, not_false_eq_true])
      · split at ho
        · exact absurd ho (by simp only [reduceCtorEq, not_false_eq_true])
        · exact Or.inl ⟨_, _, h.symm.trans (Except.error.inj ho).symm⟩
  | ok entries =>
      rw [ho] at h
      cases ht : s.tour w.entriesAt (w.depth + 1) start with
      | none =>
          rw [ht] at h
          exact Or.inr (Except.error.inj h).symm
      | some dirs =>
          rw [ht] at h
          exact absurd h (by simp only [Keyed.found, reduceCtorEq, not_false_eq_true])

section

variable (m : Matcher) (w : Keyed)

/-- The files that a mask includes are found, or none are if it cannot be used. -/
theorem included_steady (file mask : Path) : Steady (included m file mask) w := by
  have hmatch : ∀ calls, Reads (m.files (relativeTo file mask)).caught { w with calls }
      (.ok (w.matched
        (m.selection (Path.normalize (relativeTo file mask)) true m.dirRule m.fileRule)
        (Mask.start (Path.normalize (relativeTo file mask))))) := fun calls =>
    (m.matching_reads _ true none none m.dirRule m.fileRule { w with calls } rfl rfl).caught
  refine Steady.bind_ok hmatch ?_
  cases h : w.matched _ _ with
  | ok found => exact Steady.pure found
  | error fault =>
      rcases w.matched_faults _ _ fault h with ⟨dir, cause, hfault⟩ | hfault
      · rw [hfault]
        exact (Steady.pure []).said _
      · rw [hfault]
        exact Steady.endless

theorem collect_steady {α : Type} (step : α → List Path → Attempt (List Text × List Path))
    (hstep : ∀ item seen, Steady (step item seen) w) (items : List α) :
    ∀ seen, Steady (collect step items seen) w := by
  induction items with
  | nil => exact fun seen => Steady.pure _
  | cons item more ih =>
      intro seen
      exact (hstep item seen).bind fun first => (ih first.2).bind fun others => Steady.pure _

theorem linkerDirsFrom_steady (depth : Nat) :
    ∀ file seen, Steady (linkerDirsFrom m depth file seen) w := by
  induction depth with
  | zero => exact fun _ _ => Steady.endless
  | succ depth ih =>
      intro file seen
      unfold linkerDirsFrom
      simp only
      split
      · exact Steady.pure _
      have hread := (Finds.readText w _ (Path.normalize_normalize file)).reads
      refine Steady.bind_ok hread ?_
      rcases w.textReply_cases (Path.normalize file) with ⟨text, hr⟩ | ⟨why, hr, hwhy⟩
      · rw [hr]
        refine collect_steady w _ (fun line seen => ?_) _ _
        split
        · exact Steady.pure _
        · exact Steady.pure _
        · exact (Steady.pure _).said _
        · exact (included_steady m w _ _).bind fun files => collect_steady w _ ih files seen
      · rw [hr]
        cases why with
        | nulInPath => exact absurd rfl hwhy
        | _ => exact (Steady.pure _).said _

/-- Reading the linker's configuration comes to directories, or it has no end. -/
theorem linkerDirs_steady (file : Path) : Steady (linkerDirs m file) w := by
  have hdepth : ∀ calls, Reads (Attempt.request .depth) { w with calls } (.ok w.depth) :=
    fun _ => Reads.depth _
  exact Steady.bind_ok hdepth ((linkerDirsFrom_steady m w _ file []).bind fun _ => Steady.pure _)

end

end Maskwalk

import Maskwalk.Proofs.Mask.Inside
import Mathlib.Data.List.Forall2

/-!
# The text in front of the first star

Up to its first star a mask is plain text, and a text that it fits starts with as many characters
that are the same letters. If letters are compared as they are, it starts with that very text.

A walk starts at the directory of this text, and everything that is asked about a walk's start comes
down to one fact: what the keys of that directory's entries start with is a part of the text
(`into_start_starts`). So whatever a mask fits lies below the directory where it starts, and nothing
is lost by starting there. That the mask is in its normal form matters, since a text such as `./a`
would start at the current directory without starting like the keys in it.

## Theorems

* `Mask.covers_append_plain`: Plain text in front of a mask fits the start of a text.
* `Mask.takeWhile_prefix_of_covers`: A mask fits only what starts with its own plain text.
* `Mask.into_start_starts`: A mask starts like the keys of the directory where it starts.
* `Mask.below_start_iff`: Which of the keys that a mask fits lie below the directory where it
  starts.
-/

namespace Maskwalk

namespace Mask

open Maskwalk.Path (into Below)

/-- Plain text in front of a mask fits the start of a text, letter by letter, and the mask what is
    left. -/
theorem covers_append_plain (same : Char → Char → Bool) (back : Text) (front : Text)
    (hf : '*' ∉ front) : ∀ t, Covers same (front ++ back) t ↔
      ∃ u v, t = u ++ v ∧ List.Forall₂ (fun a c => same a c = true) front u ∧
        Covers same back v := by
  induction front with
  | nil =>
      intro t
      simp only [List.nil_append, List.forall₂_nil_left_iff]
      exact ⟨fun h => ⟨[], t, rfl, rfl, h⟩, fun ⟨u, v, ht, hu, hv⟩ => by
        rw [ht, hu]
        exact hv⟩
  | cons c rest ih =>
      intro t
      rw [List.mem_cons, not_or] at hf
      rw [List.cons_append, covers_other same c _ t (Ne.symm hf.1)]
      constructor
      · rintro ⟨x, more, ht, hx, hmore⟩
        rcases (ih hf.2 more).mp hmore with ⟨u, v, huv, hu, hv⟩
        exact ⟨x :: u, v, by rw [ht, huv, List.cons_append], .cons hx hu, hv⟩
      · rintro ⟨u, v, ht, hu, hv⟩
        rcases List.forall₂_cons_left_iff.mp hu with ⟨x, more, hx, hmore, hxm⟩
        rw [hxm, List.cons_append] at ht
        exact ⟨x, more ++ v, ht, hx, (ih hf.2 _).mpr ⟨more, v, rfl, hmore, hv⟩⟩

/-- What a mask fits starts with the text in front of its first star, if letters are compared as
    they are. -/
theorem takeWhile_prefix_of_covers (mask t : Text) (h : Covers (Text.sameLetter false) mask t) :
    mask.takeWhile (· ≠ '*') <+: t := by
  have hsplit := List.takeWhile_append_dropWhile (p := (· ≠ '*')) (l := mask)
  rw [← hsplit] at h
  rcases (covers_append_plain _ _ _ (no_star_takeWhile mask) t).mp h with ⟨u, v, ht, hu, _⟩
  have heq : mask.takeWhile (· ≠ '*') = u := by
    rw [← List.forall₂_eq_eq_eq]
    refine hu.imp (fun a c hac => ?_)
    rwa [Text.sameLetter, if_neg Bool.false_ne_true, decide_eq_true_eq] at hac
  rw [heq, ht]
  exact List.prefix_append u v

/-- A mask in its normal form starts like the keys of the directory where it starts. -/
theorem into_start_starts (mask : Path) :
    into (start (Path.normalize mask)) <+: (Path.normalize mask).takeWhile (· ≠ '*') := by
  have hlead := List.takeWhile_prefix (· ≠ '*') (l := Path.normalize mask)
  change into (Keyed.parent ((Path.normalize mask).takeWhile (· ≠ '*'))) <+: _
  rcases Path.upToSlash_cases ((Path.normalize mask).takeWhile (· ≠ '*')) with hup | ⟨front, hup⟩
  · rw [Keyed.parent, Path.directory, hup]
    exact List.nil_prefix
  · have hfront := Path.upToSlash_starts ((Path.normalize mask).takeWhile (· ≠ '*'))
    rw [hup] at hfront
    have hhere := (Path.normalize_of_prefix_normalize mask front (hfront.trans hlead)).2
    rw [Path.parent_of_upToSlash _ front hup hhere]
    refine List.IsPrefix.trans ?_ hfront
    by_cases h0 : front = []
    · rw [if_pos h0, h0]
      exact List.prefix_rfl
    · rw [if_neg h0]
      -- Between the two slashes of a share lies the root, which has its slash already.
      by_cases hr : front = ['/']
      · rw [hr]
        exact List.prefix_append ['/'] ['/']
      · rw [Path.into_of_ne front h0 hr]

/-- A mask that starts at the current directory is relative. -/
theorem head?_of_start_nil (mask : Path) (h : start mask = []) : mask.head? ≠ some '/' := by
  intro hhead
  rcases List.head?_eq_some_iff.mp hhead with ⟨rest, hrest⟩
  -- The text in front of the first star has the slash at its start, and so a directory.
  have hlead : into ['/'] <+: mask.takeWhile (· ≠ '*') := by
    rw [hrest]
    exact ⟨rest.takeWhile (· ≠ '*'), rfl⟩
  have hroot := Path.into_prefix_upToSlash ['/'] _ hlead
  change Keyed.parent (mask.takeWhile (· ≠ '*')) = [] at h
  rcases Path.upToSlash_cases (mask.takeWhile (· ≠ '*')) with hup | ⟨front, hup⟩
  · rw [hup] at hroot
    exact absurd hroot (by decide)
  · have hhere : front ≠ Path.here := by
      intro hf
      rw [hup, hf] at hroot
      exact absurd hroot (by decide)
    rw [Path.parent_of_upToSlash _ front hup hhere] at h
    by_cases h0 : front = []
    · rw [if_pos h0] at h
      exact List.cons_ne_nil _ _ h
    · rw [if_neg h0] at h
      exact h0 h

/-- What a mask fits below the directory where it starts is rooted just if the mask is. -/
theorem head?_of_below_start (mask p : Path) (h : Covers (Text.sameLetter false) mask p)
    (hb : Below (start mask) p) : p.head? = some '/' ↔ mask.head? = some '/' := by
  have hpre := takeWhile_prefix_of_covers mask p h
  by_cases h0 : mask.takeWhile (· ≠ '*') = []
  -- With a star at its start the mask starts at the current directory.
  · have hstart : start mask = [] := by
      rw [start, h0]
      rfl
    exact iff_of_false (hb.2.2 hstart) (head?_of_start_nil mask hstart)
  · rcases hpre with ⟨rest, hrest⟩
    rcases List.takeWhile_prefix (· ≠ '*') (l := mask) with ⟨more, hmore⟩
    rw [← hrest, List.head?_append_of_ne_nil _ h0]
    nth_rewrite 2 [← hmore]
    rw [List.head?_append_of_ne_nil _ h0]

/-- Of the keys that a mask fits, but for the roots, those lie below the directory where it starts
    that are rooted just if the mask is. -/
theorem below_start_iff (mask p : Path)
    (h : Covers (Text.sameLetter false) (Path.normalize mask) p) (h0 : p ≠ []) (hr : p ≠ ['/']) :
    Below (start (Path.normalize mask)) p ↔
      (p.head? = some '/' ↔ (Path.normalize mask).head? = some '/') := by
  refine ⟨head?_of_below_start _ p h, fun hside => ?_⟩
  have hinto := (into_start_starts mask).trans (takeWhile_prefix_of_covers _ p h)
  refine ⟨hinto, fun hp => ?_, fun hs hhead => head?_of_start_nil _ hs (hside.mp hhead)⟩
  -- The keys of the entries of a directory are longer than its own.
  rw [← hp, Path.into_of_ne p h0 hr] at hinto
  have hlen := hinto.length_le
  rw [List.length_append, List.length_singleton] at hlen
  omega

/-- If case is ignored, a mask also fits keys that lie elsewhere. -/
example : (compile "A/**".toList true).fits "a/f".toList = true ∧
    ¬ Below (start "A/**".toList) "a/f".toList := by decide

end Mask

end Maskwalk

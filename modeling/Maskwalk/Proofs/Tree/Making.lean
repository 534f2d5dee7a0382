import Maskwalk.Proofs.Engine.History
import Maskwalk.Proofs.Engine.Running
import Maskwalk.Proofs.World.Consistent

/-!
# Which directories are made

A path is made from the top down: for each of its segments in turn the path up to there is looked
at, and made if it is missing. A segment that looks absolute, a drive or a variable, is passed over,
since it stands for something that is there without being made. So a path whose last segment is of
this kind may be answered as done and be no directory; any other path is one after it has been made.

`makeBelow_made` says of every world of keys what a making that ends well has added to it, and
`Session.makeDirs_there` what is said about the path itself afterwards. What is made are the parts
of a normal form in front of its slashes, which are normal forms, so that the keys in the world are
these paths themselves. On a share that is not so: one of the two slashes at the start is lost.

## Main definitions

* `madeBelow`: the directories that are made for segments.
* `Keyed.isMakeable`: whether the last segment of a path is made.

## Theorems

* `Keyed.hasDir_settled_mkdir`: A directory made adds its key and no other.
* `makeBelow_made`: What a making that ends well has added.
* `makeDirs_eq_below`: A path is made along its normal form.
* `Session.makeDirs_there`: When a path is a directory after it has been made.
-/

namespace Maskwalk

/-- The directories that are made for segments, below a path that ends in a slash or is empty. -/
def madeBelow (above : Path) : List Text → List Path
  | [] => []
  | segment :: more =>
    if isGiven segment then madeBelow (above ++ segment ++ ['/']) more
    else (above ++ segment) :: madeBelow (above ++ segment ++ ['/']) more

/-- Whether a path has a last segment, and this is one that is made. -/
def Keyed.isMakeable (p : Path) : Bool := decide (Keyed.name p ≠ []) && !isGiven (Keyed.name p)

namespace Keyed

/-- A directory added below one that is there is listed there, and lists nothing. -/
theorem names?_addDir_of_above (w : Keyed) (p r : Path) (hnew : w.has p = false)
    (habove : w.hasDir (parent p) = true) :
    (w.addDir p).names? r = ((w.names? r).or (if p = r then some [] else none)).map fun names =>
      if r = parent p then names ++ [name p] else names := by
  rw [has, Bool.or_eq_false_iff] at hnew
  rw [addDir, addDirWithin, if_neg (Bool.eq_false_iff.mp hnew.1),
    addDirWithin_there _ _ w habove]
  change valueOf? r (listed (w.dirs ++ [(p, [])]) (parent p) (name p)) = _
  rw [names_listed, valueOf?_append_singleton]
  rfl

/-- So it adds its key and no other. -/
theorem hasDir_addDir_of_above (w : Keyed) (p r : Path) (hnew : w.has p = false)
    (habove : w.hasDir (parent p) = true) :
    (w.addDir p).hasDir r = (w.hasDir r || decide (r = p)) := by
  change ((w.addDir p).names? r).isSome = _
  rw [names?_addDir_of_above w p r hnew habove, Option.isSome_map, Option.isSome_or]
  by_cases hrp : p = r
  · rw [if_pos hrp, decide_eq_true hrp.symm]
    rfl
  · rw [if_neg hrp, decide_eq_false (Ne.symm hrp)]
    rfl

/-- A path in normal form is looked up as it is. -/
theorem settled_isDir (w : Keyed) (q : Path) (hq : Path.normalize q = q) :
    (Request.isDir q).settled w = (w.hasDir q, w.record (.isDir q)) := by
  change w.answer (.isDir (Path.normalize q)) = _
  rw [hq]
  rfl

/-- A directory that is made at a path in normal form adds its key and no other. -/
theorem hasDir_settled_mkdir (w : Keyed) (p : Path) (hp : Path.normalize p = p)
    (hok : ((Request.mkdir p).settled w).1 = .ok ()) (r : Path) :
    ((Request.mkdir p).settled w).2.hasDir r = (w.hasDir r || decide (r = p)) := by
  rcases w.settled_mkdir_ok p hp hok with ⟨hmade, _, hnew, habove, _⟩
  rw [hmade]
  exact hasDir_addDir_of_above _ p r hnew habove

end Keyed

section

variable (above : Path) (segment : Text) (more : List Text)

theorem makeBelow_nil_cons : makeBelow above ([] :: more) = makeBelow above more := by
  rw [makeBelow, if_pos rfl]

theorem makeBelow_given (hne : segment ≠ []) (hg : isGiven segment = true) :
    makeBelow above (segment :: more) = makeBelow (above ++ segment ++ ['/']) more := by
  rw [makeBelow, if_neg hne]
  exact if_pos hg

/-- Where a segment is not passed over and all ends well, its directory is there or is made, and the
    rest is made below it. -/
theorem makeBelow_step (hne : segment ≠ []) (hg : isGiven segment = false)
    (hnormal : Path.normalize (above ++ segment) = above ++ segment) (w : Keyed) (o : Outcome)
    (ho : ((makeBelow above (segment :: more)).ran w).result = .ok o) (hok : o.ok = true) :
    let asked := w.record (.isDir (above ++ segment))
    let made := (Request.mkdir (above ++ segment)).settled asked
    ∃ w' : Keyed, ((w.hasDir (above ++ segment) = true ∧ w' = asked) ∨
        (w.hasDir (above ++ segment) = false ∧ made.1 = .ok () ∧ w' = made.2)) ∧
      ((makeBelow (above ++ segment ++ ['/']) more).ran w').result = .ok o ∧
      ((makeBelow above (segment :: more)).ran w).world =
        ((makeBelow (above ++ segment ++ ['/']) more).ran w').world := by
  rw [makeBelow, if_neg hne] at ho ⊢
  simp only [hg, Bool.false_eq_true, if_false] at ho ⊢
  rw [Attempt.ran_request_bind, w.settled_isDir _ hnormal] at ho ⊢
  cases hthere : w.hasDir (above ++ segment) with
  | true =>
      rw [hthere] at ho
      exact ⟨_, Or.inl ⟨rfl, rfl⟩, ho, rfl⟩
  | false =>
      rw [hthere] at ho
      simp only [Bool.false_eq_true, if_false] at ho ⊢
      rw [Attempt.ran_request_bind] at ho ⊢
      cases hm : (Request.mkdir (above ++ segment)).settled
          (w.record (.isDir (above ++ segment))) with
      | mk reply w' =>
          rw [hm] at ho
          cases reply with
          | ok u => exact ⟨w', Or.inr ⟨trivial, rfl, rfl⟩, ho, rfl⟩
          -- A directory that cannot be made is a failure or a fault.
          | error why =>
              simp only [refused] at ho
              by_cases hr : why.isRefusal = true
              · simp only [hr, if_true] at ho
                rw [← Except.ok.inj ho] at hok
                exact absurd hok Bool.false_ne_true
              · simp only [hr] at ho
                exact absurd ho (by
                  change Except.error _ ≠ _
                  simp only [ne_eq, reduceCtorEq, not_false_eq_true])

end

/-- What a making that ends well has added are the directories that it was to make. -/
theorem makeBelow_made (segments : List Text) : ∀ (above : Path) (w : Keyed) (o : Outcome),
    (∀ s ∈ segments, s ≠ []) → (∀ q ∈ madeBelow above segments, Path.normalize q = q) →
    ((makeBelow above segments).ran w).result = .ok o → o.ok = true → ∀ r,
    ((makeBelow above segments).ran w).world.hasDir r =
      (w.hasDir r || decide (r ∈ madeBelow above segments)) := by
  induction segments with
  | nil =>
      intro above w o _ _ _ _ r
      rw [madeBelow, decide_eq_false List.not_mem_nil, Bool.or_false]
      rfl
  | cons segment more ih =>
      intro above w o hne hnormal ho hok r
      have hsegment := hne segment List.mem_cons_self
      have hmore : ∀ s ∈ more, s ≠ [] := fun s hs => hne s (List.mem_cons_of_mem _ hs)
      cases hg : isGiven segment with
      | true =>
          rw [makeBelow_given above segment more hsegment hg] at ho ⊢
          rw [madeBelow, if_pos hg] at hnormal ⊢
          exact ih _ w o hmore hnormal ho hok r
      | false =>
          rw [madeBelow, if_neg (Bool.eq_false_iff.mp hg)] at hnormal ⊢
          have hkey := hnormal _ List.mem_cons_self
          rcases makeBelow_step above segment more hsegment hg hkey w o ho hok with
            ⟨w', hstep, ho', hworld⟩
          have hadded : w'.hasDir r = (w.hasDir r || decide (r = above ++ segment)) := by
            rcases hstep with ⟨hthere, hw'⟩ | ⟨_, hmade, hw'⟩
            · rw [hw']
              change w.hasDir r = _
              by_cases hr : r = above ++ segment
              · rw [hr, hthere, Bool.true_or]
              · rw [decide_eq_false hr, Bool.or_false]
            · rw [hw']
              exact (w.record _).hasDir_settled_mkdir _ hkey hmade r
          rw [hworld, ih _ w' o hmore (fun q hq => hnormal q (List.mem_cons_of_mem _ hq)) ho' hok,
            hadded, Bool.or_assoc, ← Bool.decide_or]
          simp only [List.mem_cons]

/-- What is made are parts of the whole in front of its slashes, or all of it. -/
theorem front_of_mem_madeBelow (segments : List Text) : ∀ (above q : Path),
    q ∈ madeBelow above segments → ∃ front back, segments = front ++ back ∧ front ≠ [] ∧
      q = above ++ Text.joined ['/'] front := by
  induction segments with
  | nil => exact fun above q hq => absurd hq List.not_mem_nil
  | cons segment more ih =>
      intro above q hq
      have hbelow : q ∈ madeBelow (above ++ segment ++ ['/']) more → ∃ front back,
          segment :: more = front ++ back ∧ front ≠ [] ∧
            q = above ++ Text.joined ['/'] front := by
        intro hq
        rcases ih _ q hq with ⟨front, back, hmore, hne, hfront⟩
        refine ⟨segment :: front, back, by rw [hmore, List.cons_append], List.cons_ne_nil _ _, ?_⟩
        rw [hfront, Text.joined_cons _ _ _ hne]
        simp only [List.append_assoc]
      rw [madeBelow] at hq
      by_cases hg : isGiven segment = true
      · rw [if_pos hg] at hq
        exact hbelow hq
      · rw [if_neg hg] at hq
        rcases List.mem_cons.mp hq with hq | hq
        · exact ⟨[segment], more, rfl, List.cons_ne_nil _ _, hq⟩
        · exact hbelow hq

/-- The whole is made just if its last segment is not passed over. -/
theorem mem_madeBelow_last (last : Text) (segments : List Text) : ∀ above : Path,
    above ++ Text.joined ['/'] (segments ++ [last]) ∈ madeBelow above (segments ++ [last]) ↔
      isGiven last = false := by
  induction segments with
  | nil =>
      intro above
      change above ++ last ∈ madeBelow above [last] ↔ _
      rw [madeBelow]
      by_cases hg : isGiven last = true
      · rw [if_pos hg, hg]
        exact ⟨fun h => absurd h List.not_mem_nil, fun h => absurd h.symm Bool.false_ne_true⟩
      · rw [if_neg hg]
        exact ⟨fun _ => Bool.eq_false_iff.mpr hg, fun _ => List.mem_cons_self⟩
  | cons segment more ih =>
      intro above
      have hne : more ++ [last] ≠ [] :=
        List.append_ne_nil_of_right_ne_nil _ (List.cons_ne_nil _ _)
      have hwhole : above ++ Text.joined ['/'] (segment :: more ++ [last]) =
          above ++ segment ++ ['/'] ++ Text.joined ['/'] (more ++ [last]) := by
        rw [List.cons_append, Text.joined_cons _ _ _ hne]
        simp only [List.append_assoc]
      rw [hwhole, List.cons_append, madeBelow, ← ih]
      by_cases hg : isGiven segment = true
      · rw [if_pos hg]
      -- What is made first is shorter than the whole.
      · rw [if_neg hg, List.mem_cons]
        refine or_iff_right (fun heq => ?_)
        have hlen := congrArg List.length heq
        simp only [List.length_append, List.length_singleton] at hlen
        omega

/-- Below the root of files the segments are what the slashes leave. -/
theorem makeBelow_pieces_rooted (segments : List Text)
    (hfree : ∀ s ∈ segments, ∀ c ∈ s, Path.isSlash c = false) :
    makeBelow ['/'] (Text.pieces Path.isSlash ('/' :: Text.joined ['/'] segments)) =
      makeBelow ['/'] segments := by
  rw [Text.pieces_sep_cons '/' _ rfl, makeBelow_nil_cons]
  by_cases hne : segments = []
  · rw [hne]
    exact makeBelow_nil_cons _ _
  · rw [Text.pieces_joined '/' rfl segments hne hfree]

/-- A path that is not on a share is made along its normal form: below one of the two roots, by
    segments up to each of which it is a normal form itself. -/
theorem makeDirs_eq_below (p : Path) (hshare : ¬ ['/', '/'] <+: Path.normalize p) :
    ∃ above segments, (above = [] ∨ above = ['/']) ∧
      (∀ s ∈ segments, s ≠ [] ∧ '/' ∉ s ∧ s ∈ Path.segments (Path.normalize p)) ∧
      Path.normalize p = above ++ Text.joined ['/'] segments ∧
      (∀ front back, segments = front ++ back → Path.normalize (above ++ Text.joined ['/'] front) =
        above ++ Text.joined ['/'] front) ∧
      makeDirs p = makeBelow above segments := by
  unfold makeDirs
  rcases Path.normalize_cases p with h | h | ⟨root, segments, hpiled, hnil, h⟩
  · refine ⟨[], [], Or.inl rfl, fun s hs => absurd hs List.not_mem_nil, h, fun front back hf => ?_,
      ?_⟩
    · rw [(List.append_eq_nil_iff.mp hf.symm).1]
      rfl
    · rw [h]
      exact makeBelow_nil_cons [] []
  · refine ⟨[], [Path.dot], Or.inl rfl, by rw [h]; decide, h, fun front back hf => ?_,
      by rw [h]; rfl⟩
    cases front with
    | nil => rfl
    | cons s rest =>
        rw [List.cons_append, List.cons.injEq] at hf
        rw [← hf.1, (List.append_eq_nil_iff.mp hf.2.symm).1]
        decide
  · have hseg := Path.segments_of_piled root segments hpiled
    rw [h] at hshare
    have hroot := Path.ne_share_of_written root segments hshare
    have hnames : ∀ s ∈ segments, s ≠ [] ∧ '/' ∉ s ∧
        s ∈ Path.segments (Path.written root segments) := fun s hs =>
      ⟨(hseg s hs).ne_nil, (hseg s hs).no_slash,
        (Path.mem_segments_written root segments hseg s (hseg s hs).ne_nil).mpr hs⟩
    have hfree : ∀ s ∈ segments, ∀ c ∈ s, Path.isSlash c = false := fun s hs =>
      Path.free_of_no_slash s (hseg s hs).no_slash
    -- The part of a pile that lies lowest is a pile.
    have hfront : ∀ front back, segments = front ++ back →
        Path.normalize (Path.written root front) = Path.written root front := by
      intro front back hf
      rw [hf, List.reverse_append] at hpiled
      exact Path.normalize_written root front (Path.piled_of_append root _ _ hpiled)
    rw [h]
    cases root with
    | relative =>
        have hne : segments ≠ [] := fun h0 => hnil (by rw [h0]; rfl)
        refine ⟨[], segments, Or.inl rfl, hnames, rfl, hfront, ?_⟩
        change makeBelow (if (Text.joined ['/'] segments).head? = some '/' then _ else _)
          ((Text.joined ['/'] segments).pieces Path.isSlash) = _
        rw [if_neg (Path.joined_head segments hseg), Text.pieces_joined '/' rfl segments hne hfree]
    | rooted =>
        exact ⟨['/'], segments, Or.inr rfl, hnames, rfl, hfront,
          makeBelow_pieces_rooted segments hfree⟩
    | share => exact absurd rfl hroot

/-- The name of a path is the last of its segments. -/
theorem Keyed.name_joined (above : Path) (ha : above = [] ∨ above = ['/']) (segments : List Text)
    (last : Text) (hl : '/' ∉ last) :
    Keyed.name (above ++ Text.joined ['/'] (segments ++ [last])) = last := by
  by_cases hne : segments = []
  · rw [hne]
    rcases ha with ha | ha
    · rw [ha]
      exact Path.baseName_of_no_slash last hl
    · rw [ha]
      exact Path.baseName_behind [] last hl
  · rw [Text.joined_append_singleton _ _ _ hne, List.append_assoc, ← List.append_assoc above]
    exact Path.baseName_behind _ last hl

/-- After a making that ends well a path that is not on a share is a directory, unless it was none
    before and its last segment is not one that is made. -/
theorem makeDirs_made (p : Path) (hshare : ¬ ['/', '/'] <+: Path.normalize p) (w : Keyed)
    (o : Outcome) (ho : ((makeDirs p).ran w).result = .ok o) (hok : o.ok = true) :
    ((makeDirs p).ran w).world.hasDir (Path.normalize p) =
      (w.hasDir (Path.normalize p) || Keyed.isMakeable (Path.normalize p)) := by
  rcases makeDirs_eq_below p hshare with ⟨above, segments, ha, hnames, hp, hfront, hmake⟩
  have hnormal : ∀ q ∈ madeBelow above segments, Path.normalize q = q := by
    intro q hq
    rcases front_of_mem_madeBelow segments above q hq with ⟨front, back, hf, _, hqf⟩
    rw [hqf, hfront front back hf]
  rw [hmake] at ho ⊢
  rw [makeBelow_made segments above w o (fun s hs => (hnames s hs).1) hnormal ho hok, hp]
  congr 1
  rcases List.eq_nil_or_concat segments with h0 | ⟨init, last, hlast⟩
  -- A root has no segment to be made.
  · rw [h0]
    rcases ha with ha | ha
    · rw [ha]
      rfl
    · rw [ha]
      rfl
  · rw [List.concat_eq_append] at hlast
    rw [hlast] at hnames ⊢
    have hl := hnames last (List.mem_append_right _ (List.mem_singleton_self last))
    have hmade := mem_madeBelow_last last init above
    rw [Keyed.isMakeable, Keyed.name_joined above ha init last hl.2.1, decide_eq_true hl.1,
      Bool.true_and]
    cases hg : isGiven last with
    | true => exact decide_eq_false fun hc => Bool.false_ne_true ((hmade.mp hc).symm.trans hg)
    | false => exact decide_eq_true (hmade.mpr hg)

namespace Session

/-- In every world of keys: after the making of a path not on a share that was answered as ended
    well, the path is a directory just if it was one before or its last segment is one that is made.
    So it is one unless that segment is missing or looks absolute, like a drive or a variable. -/
theorem makeDirs_there (s : Session Keyed) (p : Path)
    (hshare : ¬ ['/', '/'] <+: Path.normalize p) (strict : Bool) (o : Outcome)
    (ho : (s.perform (.makeDirs p strict)).1.result = .ok (.outcome o)) (hok : o.ok = true) :
    ((s.perform (.makeDirs p strict)).2.perform (.isDir p)).1.result =
      .ok (.flag (s.world.hasDir (Path.normalize p) || Keyed.isMakeable (Path.normalize p))) := by
  rcases s.perform_of_change (.makeDirs p strict) (makeDirs p) strict rfl with ⟨hworld, hresult⟩
  rw [isDir_answer, hworld, makeDirs_made p hshare s.world o (hresult o ho) hok]

theorem makeDirs_there_branch :
    (¬ ['/', '/'] <+: Path.normalize "./a//c\\d/".toList) ∧
    (onGrove.perform (.makeDirs "./a//c\\d/".toList true)).1.result = .ok (.outcome .done) ∧
    ((onGrove.perform (.makeDirs "./a//c\\d/".toList true)).2.perform
      (.isDir "./a//c\\d/".toList)).1.result = .ok (.flag true) := by
  have hshare : ¬ ['/', '/'] <+: Path.normalize "./a//c\\d/".toList := by decide
  have hdone : (onGrove.perform (.makeDirs "./a//c\\d/".toList true)).1.result =
      .ok (.outcome .done) := by decide
  exact ⟨hshare, hdone, makeDirs_there onGrove _ hshare true _ hdone rfl⟩

/-- A path that ends in a variable is answered as made, and is no directory. -/
theorem makeDirs_not_there :
    Path.isDrive (Keyed.name (Path.normalize "$x".toList)) = false ∧
    (onGrove.perform (.makeDirs "$x".toList false)).1.result = .ok (.outcome .done) ∧
    ((onGrove.perform (.makeDirs "$x".toList false)).2.perform
      (.isDir "$x".toList)).1.result = .ok (.flag false) := by
  decide

end Session

end Maskwalk

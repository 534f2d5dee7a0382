import Maskwalk.Proofs.Tree.Contents
import Maskwalk.Proofs.Tree.Making
import Maskwalk.Proofs.Walk.Hushed
import Maskwalk.Proofs.World.Line

/-!
# Removing what was made

To make a path is to make the directories that are missing on the way to it, one in another. To
remove a tree is to remove what a directory holds and then the directory itself. So the removal of
the first directory that was made takes back the whole making, in the opposite order: it goes down
the line of new directories, each of which holds the next one and nothing else, and removes them on
its way back.

Permissions and faults do not stand in the way. A directory could only be made where its key has no
fault and the directory above may be changed, and no more is needed to remove it. What a making does
not depend on, and a removal does, is that directories can be listed.

Nothing that is said on the way is logged. `Succeeds` takes the result of a run, its notices and the
world it leaves together, since one cannot be had without the others: what is logged depends on the
replies, and these on the world.

## Main definitions

* `Attempt.Succeeds`: runs that come to a result and log nothing.

## Theorems

* `makeBelow_grows`: A making that ends well makes a line of directories.
* `contents_succeeds`: Asking for what a directory holds.
* `removeTreeWithin_first`, `removeTreeWithin_line`: The removal of the first directory of a line
  takes back the line.
* `makeDirs_grows`: A path that is made and was no directory is where such a line ends.
* `Session.removeTree_undoes_makeDirs`: So the removal of what was made restores the tree.
-/

namespace Maskwalk

open Maskwalk.Path (child Below Within IsName IsOrdinary line)

open Attempt

variable {α β : Type}

/-- A run that comes to a result, logs nothing, and leaves a world of some kind. -/
structure Attempt.Succeeds (a : Attempt α) (w : Keyed) (x : α) (post : Keyed → Prop) : Prop where
  result : (a.ran w).result = .ok x
  hushed : ∀ n ∈ (a.ran w).notices, n.level = .debug
  world : post (a.ran w).world

namespace Attempt.Succeeds

variable {w : Keyed} {x : α} {post : Keyed → Prop}

theorem pure (h : post w) : Succeeds (Pure.pure x) w x post :=
  ⟨rfl, fun _ hn => absurd hn List.not_mem_nil, h⟩

theorem notice {n : Notice} (hn : n.level = .debug) (h : post w) :
    Succeeds (Attempt.notice n) w () post :=
  ⟨rfl, (Hushed.notice hn).notices w, h⟩

theorem request {q : Request} {reply : q.Reply} (hreply : (q.settled w).1 = reply)
    (h : post (q.settled w).2) : Succeeds (Attempt.request q) w reply post :=
  ⟨congrArg Except.ok hreply, fun _ hn => absurd hn List.not_mem_nil, h⟩

theorem bind {a : Attempt α} {f : α → Attempt β} {y : β} {mid : Keyed → Prop}
    (ha : Succeeds a w x mid) (hf : ∀ w', mid w' → Succeeds (f x) w' y post) :
    Succeeds (a >>= f) w y post := by
  have hrest := hf _ ha.world
  refine ⟨?_, fun n hn => ?_, ?_⟩
  · rw [result_bind, ha.result, further_ok]
    exact hrest.result
  · rw [notices_bind, ha.result, further_ok] at hn
    exact (List.mem_append.mp hn).elim (ha.hushed n) (hrest.hushed n)
  · rw [world_bind, ha.result, further_ok]
    exact hrest.world

/-- A step that is such a run is answered accordingly. -/
theorem perform (s : Session Keyed) (step : Step) (a : Attempt Answer) {answer : Answer}
    (h : step.attempt? s.engine = some a) (ha : Succeeds a s.world answer post) :
    (s.perform step).1.result = .ok answer ∧
      (∀ n ∈ (s.perform step).1.notices, n.level = .debug) ∧ post (s.perform step).2.world := by
  rw [s.perform_of_attempt step a h]
  exact ⟨ha.result, ha.hushed, ha.world⟩

end Attempt.Succeeds

/-- A making logs nothing, however it ends. -/
theorem makeBelow_hushed (segments : List Text) : ∀ above : Path,
    (makeBelow above segments).Hushed := by
  induction segments with
  | nil => exact fun _ => Hushed.pure _
  | cons segment more ih =>
      intro above
      rw [makeBelow]
      split
      · exact ih above
      simp only
      split
      · exact ih _
      refine Hushed.bind (Hushed.request _) fun isThere => ?_
      split
      · exact ih _
      refine Hushed.bind (Hushed.request _) fun reply => ?_
      cases reply with
      | ok _ => exact Hushed.bind (Hushed.notice rfl) fun _ => ih _
      | error why =>
          have hrefused : (refused (above ++ segment) why).Hushed := by
            unfold refused
            split
            · exact Hushed.pure _
            · exact Hushed.throw _
          simp only
          split
          · exact Hushed.bind (Hushed.notice rfl) fun _ => hrefused
          · exact hrefused

theorem settle_hushed (strict : Bool) (o : Outcome) : (settle strict o).Hushed := by
  unfold settle
  split
  · split
    · exact Hushed.throw _
    · exact Hushed.pure _
  · exact Hushed.pure _

/-- The directories on the way to a path that are missing are made one in another, if the making
    ends well; those in front of them were there. -/
theorem makeBelow_grows (names : List Text) : ∀ (d : Path) (w : Keyed) (o : Outcome), w.Ordinary →
    IsOrdinary (line d names) → (∀ n ∈ names, IsName n ∧ isGiven n = false) →
    ((makeBelow (Path.into d) names).ran w).result = .ok o → o.ok = true →
    ∃ front back, names = front ++ back ∧ (front ≠ [] → w.hasDir (line d front) = true) ∧
      w.GrowsLine (line d front) back ((makeBelow (Path.into d) names).ran w).world := by
  induction names with
  | nil =>
      intro d w o _ _ _ _ _
      exact ⟨[], [], rfl, fun h0 => absurd rfl h0, .done (Keyed.SameTree.refl w)⟩
  | cons n more ih =>
      intro d w o hw hline hnames ho hok
      have hn := hnames n List.mem_cons_self
      have hmore : ∀ m ∈ more, IsName m ∧ isGiven m = false := fun m hm =>
        hnames m (List.mem_cons_of_mem _ hm)
      have hchild : IsOrdinary (child d n) := IsOrdinary.of_within _ _ hline
        (Path.within_line (child d n) more fun m hm => (hmore m hm).1)
      have hd : Path.InTree d := (IsOrdinary.of_within _ _ hline
        (Path.within_line d _ fun m hm => (hnames m hm).1)).proper.inTree
      rcases makeBelow_step (Path.into d) n more hn.1.ne_nil hn.2 hchild.normal w o ho hok with
        ⟨w₁, hstep, ho₁, hworld⟩
      have hinto : Path.into d ++ n ++ ['/'] = Path.into (child d n) :=
        (Path.into_child d n hn.1.ne_nil hn.1.no_slash).symm
      rw [hinto] at ho₁ hworld
      have hasked := hw.with_calls (.isDir (child d n) :: w.calls)
      rw [hworld]
      rcases hstep with ⟨hthere, hw₁⟩ | ⟨_, hmade, hw₁⟩
      -- What is there is passed over, and belongs to the front.
      · rw [hw₁] at ho₁ ⊢
        rcases ih (child d n) _ o hasked hline hmore ho₁ hok with
          ⟨front, back, hsplit, hfront, hgrows⟩
        refine ⟨n :: front, back, by rw [hsplit, List.cons_append], fun _ => ?_, hgrows.of_calls⟩
        cases front with
        | nil => exact hthere
        | cons m others => exact hfront (List.cons_ne_nil _ _)
      · have hmakes := Keyed.makes_of_settled _ d n hd hn.1 hchild.normal hmade
        rw [← show w₁ = ((Request.mkdir (child d n)).settled _).2 from hw₁] at hmakes
        have hw' := hmakes.ordinary hasked hchild
        rcases ih (child d n) w₁ o hw' hline hmore ho₁ hok with
          ⟨front, back, hsplit, hfront, hgrows⟩
        -- A new directory is empty, so all that comes behind it has to be made.
        cases front with
        | nil =>
            rw [List.nil_append] at hsplit
            rw [hsplit] at hgrows ⊢
            exact ⟨[], n :: back, rfl, fun h0 => absurd rfl h0, .step hmakes.of_calls hgrows⟩
        | cons m others =>
            have hbelow := Path.below_line others (child d n) m (fun k hk =>
              (hmore k (by rw [hsplit]; exact List.mem_append_left _ hk)).1)
            have hdir := hfront (List.cons_ne_nil _ _)
            rw [hmakes.hasDir_below hw' _ hbelow] at hdir
            exact absurd hdir Bool.false_ne_true

section

variable (m : Matcher)

/-- Asking for what a directory holds logs nothing, if the directory may be listed. -/
theorem contents_succeeds (d : Path) (files : Bool) (w : Keyed) (hw : w.Ordinary)
    (hd : Path.Proper d) (hs : '*' ∉ d) (hmay : w.mayList d = true) :
    Succeeds (contents m d files) w
      ((w.kids d).filter fun c => if files then w.hasFile c else w.hasDir c) w.SameTree := by
  have hreads := contents_reads m d files w hw
  rw [hw.holds_eq m d files hd hs] at hreads
  refine ⟨hreads.result, ?_, ?_⟩
  · have hmatch := inside_reads m d files w
    rw [start_inside d hd hs] at hmatch
    have hfound : ∃ found, w.matched (m.inside d files) d = .ok found := by
      rcases (hw.descends (m.inside d files)).matched_cases d (Path.normalize_proper d hd) with
        ⟨dirs, _, hm⟩ | ⟨hno, _⟩
      · exact ⟨_, hm⟩
      · rw [hmay] at hno
        exact absurd hno.symm Bool.false_ne_true
    rcases hfound with ⟨found, hfound⟩
    rw [hfound] at hmatch
    have hhushed : (if files then m.matching (Path.join d ['*']) true none (some .nothing)
        else m.matching (Path.join d ['*']) false (some .nothing) none).Hushed := by
      cases files <;> exact m.matching_hushed _ _ _ _
    -- Only a match that ends in a fault is reported.
    intro n hn
    unfold contents at hn
    rw [notices_bind, ran_caught, hmatch.result, further_ok] at hn
    exact (List.mem_append.mp hn).elim (hhushed.notices w n)
      (fun hn => absurd hn List.not_mem_nil)
  · rcases hreads.world with ⟨calls, hworld⟩
    rw [hworld]
    exact Keyed.SameTree.of_calls w calls

/-- A directory that was made and is empty again is removed. -/
theorem removeEmptied_made (w w₁ w' : Keyed) (d n : Text) (hw : w.Ordinary)
    (hmakes : w.Makes d n w₁) (hkey : IsOrdinary (child d n)) (hs : '*' ∉ child d n)
    (hopen : child d n ∉ w.denied) (hsame : w₁.SameTree w') :
    Succeeds (removeEmptied m (child d n)) w' .done w.SameTree := by
  have hgrows : w.GrowsLine d [n] w' := .step hmakes (.done hsame)
  have hmay := hgrows.mayList_first hopen
  have hempty : w'.kids (child d n) = [] := by
    rw [Keyed.kids, Keyed.shown, if_pos hmay, hgrows.names_first]
    rfl
  have hfiles := contents_succeeds m (child d n) true w' (hgrows.ordinary hw hkey) hkey.proper hs
    hmay
  rw [hempty] at hfiles
  unfold removeEmptied
  refine hfiles.bind fun w₂ hsame₂ => ?_
  refine Succeeds.bind (Succeeds.pure hsame₂) fun w₃ hsame₃ => ?_
  have hundone := hmakes.undone hw.coherent hkey.normal (hsame.trans hsame₃)
  refine Succeeds.bind (Succeeds.request hundone.1 hundone.2) fun w₄ hsame₄ => ?_
  exact Succeeds.bind (Succeeds.notice rfl hsame₄) fun w₅ hsame₅ => Succeeds.pure hsame₅

/-- The first directory of a line is found to hold the second and no other. -/
theorem kids_first (w w' : Keyed) (d n : Text) (more : List Text) (hw' : w'.Ordinary)
    (hgrows : w.GrowsLine d (n :: more) w') (hopen : child d n ∉ w.denied) :
    ((w'.kids (child d n)).filter w'.hasDir).filter (!endsInMarker ·) =
      more.head?.toList.map (child (child d n)) := by
  rw [hw'.kids_not_markers, Keyed.kids, Keyed.shown, if_pos (hgrows.mayList_first hopen),
    hgrows.names_first, Option.getD_some, List.filter_eq_self]
  intro c hc
  cases hgrows with
  | step first rest =>
      cases rest with
      | done _ => exact absurd hc List.not_mem_nil
      | step second others =>
          rw [List.mem_singleton.mp hc]
          exact others.hasDir_of _ ((Keyed.hasDir_iff _ _).mpr ⟨[], second.names_new⟩)

/-- If the others of a line can be removed from its first directory, so can that after them. -/
theorem removeTreeWithin_first (fuel : Nat) (w w₁ w' : Keyed) (d n : Text) (more : List Text)
    (hw : w.Ordinary) (first : w.Makes d n w₁) (rest : w₁.GrowsLine (child d n) more w')
    (hline : IsOrdinary (line d (n :: more))) (hs : '*' ∉ line d (n :: more))
    (hopen : child d n ∉ w.denied)
    (hothers : ∀ w₂, w'.SameTree w₂ → Succeeds
      (doEach (fun dir => do let _ ← removeTreeWithin m fuel dir)
        (more.head?.toList.map (child (child d n)))) w₂ () w₁.SameTree) :
    Succeeds (removeTreeWithin m (fuel + 1) (child d n)) w' .done w.SameTree := by
  have hgrows : w.GrowsLine d (n :: more) w' := .step first rest
  have hw' := hgrows.ordinary hw hline
  have hwithin : Within (child d n) (line d (n :: more)) :=
    Path.within_line (child d n) more rest.isName
  have hkey := IsOrdinary.of_within _ _ hline hwithin
  have hstar : '*' ∉ child d n := fun hc => hs (Path.subset_of_within _ _ hwithin hc)
  have hdirs := contents_succeeds m (child d n) false w' hw' hkey.proper hstar
    (hgrows.mayList_first hopen)
  have hkids := kids_first w w' d n more hw' hgrows hopen
  unfold removeTreeWithin
  simp only [hkey.normal]
  refine hdirs.bind fun w₂ hsame₂ => ?_
  simp only [Bool.false_eq_true, if_false]
  rw [show List.filter (fun c => w'.hasDir c) _ = List.filter w'.hasDir _ from rfl, hkids]
  exact (hothers w₂ hsame₂).bind fun w₃ hsame₃ =>
    removeEmptied_made m w w₁ w₃ d n hw first hkey hstar hopen hsame₃

/-- The removal of the first directory of a line takes back the line. -/
theorem removeTreeWithin_line (fuel : Nat) : ∀ (w w' : Keyed) (d n : Text) (more : List Text),
    more.length < fuel → w.Ordinary → w.GrowsLine d (n :: more) w' →
    IsOrdinary (line d (n :: more)) → '*' ∉ line d (n :: more) →
    (∀ q, w.IsNew w' q → q ∉ w.denied) →
    Succeeds (removeTreeWithin m fuel (child d n)) w' .done w.SameTree := by
  induction fuel with
  | zero => exact fun _ _ _ _ more hfuel => absurd hfuel (Nat.not_lt_zero more.length)
  | succ fuel ih =>
      intro w w' d n more hfuel hw hgrows hline hs hopen
      have hshut := hopen _ hgrows.isFirstNew.isNew
      cases hgrows with
      | @step _ w₁ _ _ _ _ first rest =>
          refine removeTreeWithin_first m fuel w w₁ w' d n more hw first rest hline hs hshut
            fun w₂ hsame => ?_
          cases more with
          | nil =>
              cases rest with
              | done hsame₁ => exact Succeeds.pure (hsame₁.trans hsame)
          | cons k others =>
              have hkey : IsOrdinary (child d n) := IsOrdinary.of_within _ _ hline
                (Path.within_line (child d n) (k :: others) rest.isName)
              -- What is new in the rest of the line is new in the whole.
              have hopen₁ : ∀ q, w₁.IsNew w₂ q → q ∉ w₁.denied := by
                intro q hq
                rw [first.denied]
                exact hopen q (first.isNew q (hsame.isNew q hq))
              have hnext := ih w₁ w₂ (child d n) k others (Nat.lt_of_succ_lt_succ hfuel)
                (first.ordinary hw hkey) (rest.same hsame) hline hs hopen₁
              change Succeeds (doEach _ [child (child d n) k]) w₂ () w₁.SameTree
              unfold doEach
              refine Succeeds.bind (Succeeds.bind hnext fun w₃ hsame₃ => Succeeds.pure hsame₃) ?_
              exact fun w₃ hsame₃ => Succeeds.pure hsame₃

/-- The removal of the first directory of a line takes back the line. -/
theorem removeTree_line (w w' : Keyed) (d n : Text) (more : List Text) (hw : w.Ordinary)
    (hgrows : w.GrowsLine d (n :: more) w') (hline : IsOrdinary (line d (n :: more)))
    (hs : '*' ∉ line d (n :: more))
    (hopen : ∀ q, w.IsNew w' q → q ∉ w.denied) :
    Succeeds (removeTree m (child d n)) w' .done w.SameTree := by
  -- The last directory of the line has a key of at least as many characters as there are names.
  have hfuel : more.length < w'.depth + 2 := by
    have hdeep := w'.length_lt_depth _ (hgrows.hasDir_line hgrows.above)
    have hlong := Path.length_line d (n :: more) fun k hk => (hgrows.isName k hk).ne_nil
    rw [List.length_cons] at hlong
    omega
  unfold removeTree
  have hdepth : Succeeds (Attempt.request .depth) w' w'.depth (· = w') := Succeeds.request rfl rfl
  refine hdepth.bind fun w₂ hw₂ => ?_
  rw [hw₂]
  exact removeTreeWithin_line m _ w w' d n more hfuel hw hgrows hline hs hopen

end

/-- A safe path is made as a line of names from a root. -/
theorem makeDirs_eq_line (p : Path) (hsafe : Path.IsSafe p)
    (hplain : ∀ n ∈ Path.segments (Path.normalize p),
      n.head? ≠ some '$' ∧ Path.startsWithDrive n = false) :
    ∃ above names, names ≠ [] ∧ (∀ n ∈ names, IsName n ∧ isGiven n = false) ∧
      line above names = Path.normalize p ∧ makeDirs p = makeBelow (Path.into above) names := by
  rcases makeDirs_eq_below p hsafe.no_share with ⟨above, segments, ha, hsegments, hp, _, hmake⟩
  have hroot : Path.into above = above ∧ above ≠ Path.normalize p := by
    rcases ha with ha | ha
    · rw [ha]
      exact ⟨Path.into_nil, hsafe.ne_nil.symm⟩
    · rw [ha]
      exact ⟨Path.into_root, hsafe.ne_root.symm⟩
  rw [← hroot.1] at hmake
  refine ⟨above, segments, fun h0 => ?_, fun n hn => ?_, ?_, hmake⟩
  · rw [h0, Text.joined, List.append_nil] at hp
    exact hroot.2 hp.symm
  · rcases hsegments n hn with ⟨hne, hslash, hmem⟩
    have hname := (hsafe.inner p).toIsRegular.name_of_segment _ n hmem hne
    have habsolute := Path.isAbsolute_eq_false n hslash hname.2 (hplain n hmem).1 (hplain n hmem).2
    refine ⟨hname.1, ?_⟩
    rw [isGiven, Path.isDrive, (hplain n hmem).2, habsolute]
    rfl
  · cases segments with
    | nil =>
        rw [Text.joined, List.append_nil] at hp
        exact absurd hp.symm hroot.2
    | cons n more =>
        rw [Path.line_eq more above n (fun m hm => ⟨(hsegments m hm).1, (hsegments m hm).2.1⟩),
          hroot.1, hp]

/-- A path that is made and was no directory is where a line of new directories ends. -/
theorem makeDirs_grows (p : Path) (hsafe : Path.IsSafe p)
    (hplain : ∀ n ∈ Path.segments (Path.normalize p),
      n.head? ≠ some '$' ∧ Path.startsWithDrive n = false)
    (w : Keyed) (hw : w.Ordinary) (hnew : w.hasDir (Path.normalize p) = false) (o : Outcome)
    (ho : ((makeDirs p).ran w).result = .ok o) (hok : o.ok = true) :
    ∃ d n more, line d (n :: more) = Path.normalize p ∧
      w.GrowsLine d (n :: more) ((makeDirs p).ran w).world := by
  rcases makeDirs_eq_line p hsafe hplain with ⟨above, names, hne, hnames, hline, hmake⟩
  rw [hmake] at ho ⊢
  rcases makeBelow_grows names above w o hw (by rw [hline]; exact hsafe.ordinary p hplain) hnames
    ho hok with ⟨front, back, hsplit, hfront, hgrows⟩
  cases back with
  -- The path itself would have been there.
  | nil =>
      rw [List.append_nil] at hsplit
      rw [← hsplit, hline, hnew] at hfront
      exact absurd (hfront hne).symm Bool.true_eq_false.mp
  | cons n more =>
      refine ⟨line above front, n, more, ?_, hgrows⟩
      rw [← hline, hsplit, line, line, line, List.foldl_append]

namespace Session

/-- In every ordinary world: if a path that is no directory has been made, and the directories that
    are new can be listed, then the removal of the first of them ends well and brings back the tree
    that was there before, down to the order in which directories list their names. -/
theorem removeTree_undoes_makeDirs (s : Session Keyed) (hw : s.world.Ordinary) (p : Path)
    (hsafe : Path.IsSafe p)
    (hplain : ∀ n ∈ Path.segments (Path.normalize p),
      '*' ∉ n ∧ n.head? ≠ some '$' ∧ Path.startsWithDrive n = false)
    (hnew : s.world.hasDir (Path.normalize p) = false) (strict strict' : Bool) (o : Outcome)
    (ho : (s.perform (.makeDirs p strict)).1.result = .ok (.outcome o)) (hok : o.ok = true)
    (hopen : ∀ d, s.world.IsNew (s.perform (.makeDirs p strict)).2.world d →
      d ∉ s.world.denied) :
    let made := s.perform (.makeDirs p strict)
    (∀ n ∈ made.1.notices, n.level = .debug) ∧ ∃ first, s.world.IsFirstNew made.2.world first ∧
      let removed := made.2.perform (.removeTree first strict')
      removed.1.result = .ok (.outcome .done) ∧ (∀ n ∈ removed.1.notices, n.level = .debug) ∧
        s.world.SameTree removed.2.world := by
  rcases s.perform_of_change (.makeDirs p strict) (makeDirs p) strict rfl with ⟨hworld, hresult⟩
  have hplain' := fun n hn => (hplain n hn).2
  have hline := hsafe.ordinary p hplain'
  have hstar : '*' ∉ Path.normalize p := by
    intro hc
    have hpiece : ∃ n ∈ Path.segments (Path.normalize p), '*' ∈ n :=
      Text.exists_piece_of_mem _ '*' hc rfl
    rcases hpiece with ⟨n, hn, hcn⟩
    exact (hplain n hn).1 hcn
  rcases makeDirs_grows p hsafe hplain' s.world hw hnew o (hresult o ho) hok with
    ⟨d, n, more, hend, hgrows⟩
  rw [← hend] at hline hstar
  rw [← hworld] at hgrows
  refine ⟨?_, child d n, hgrows.isFirstNew, ?_⟩
  · rw [s.perform_of_attempt (.makeDirs p strict) _ rfl]
    exact (Hushed.bind (makeBelow_hushed _ _) (settle_hushed strict)).notices s.world
  · have hengine : (s.perform (.makeDirs p strict)).2.engine = s.engine := by
      rw [s.perform_of_attempt (.makeDirs p strict) _ rfl]
    have hundone := removeTree_line s.engine.matcher s.world _ d n more hw hgrows hline hstar hopen
    -- An outcome that is done is returned as it is, strict or not.
    refine Succeeds.perform _ (.removeTree (child d n) strict')
      (removeTree s.engine.matcher (child d n) >>= settle strict') (by rw [hengine]; rfl)
      (hundone.bind fun w hw => Succeeds.pure hw)

/-- A session on a small tree of which little can be used: `a` cannot be listed, the root cannot be
    changed, and `a/b` is broken. -/
def onThicket : Session Keyed :=
  { onGrove with world := { Keyed.grove with
      denied := ["a".toList]
      readonly := ["/".toList]
      faults := [("a/b".toList, "broken".toList)] } }

theorem removeTree_undoes_makeDirs_thicket :
    (onThicket.perform (.makeDirs "./a//c/../c/d".toList true)).1.result = .ok (.outcome .done) ∧
    ∃ first, onThicket.world.IsFirstNew
        (onThicket.perform (.makeDirs "./a//c/../c/d".toList true)).2.world first ∧
      onThicket.world.SameTree
        ((onThicket.perform (.makeDirs "./a//c/../c/d".toList true)).2.perform
          (.removeTree first false)).2.world := by
  have hdone : (onThicket.perform (.makeDirs "./a//c/../c/d".toList true)).1.result =
      .ok (.outcome .done) := by decide
  -- The only directory that cannot be listed was there before.
  have hopen : ∀ d, onThicket.world.IsNew
      (onThicket.perform (.makeDirs "./a//c/../c/d".toList true)).2.world d →
        d ∉ onThicket.world.denied := by
    rintro d ⟨_, hno⟩ hd
    rw [List.mem_singleton.mp hd] at hno
    exact absurd hno (by decide)
  rcases removeTree_undoes_makeDirs onThicket (by decide) "./a//c/../c/d".toList (by decide)
    (by decide) (by decide) true false .done hdone rfl hopen with ⟨_, first, hfirst, _, _, hsame⟩
  exact ⟨hdone, first, hfirst, hsame⟩

end Session

end Maskwalk

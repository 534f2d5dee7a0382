import Maskwalk.Engine.Memory
import Maskwalk.Proofs.Run

/-!
# What a program may ask

What a program asks depends on the replies, but often something can be said about all that it may
ask, whatever the replies are, or at least as long as they are fair. *Terms* say which requests may
be put to a world and which replies are fair, and a program keeps them if it asks nothing else as
long as the replies are fair. This is read off the program, one case for every way of putting
programs together, and no world comes into it.

A world upholds terms under an invariant if allowed requests keep the invariant and get fair
replies. `Inquiry.Keeps.run` is where the two meet: on such a world a program that keeps the terms
asks for what is allowed only, and the invariant holds at every stage of its run.

A program that asks for no change at all is *quiet*; it keeps all terms that allow queries. One that
does not even look for files keeps all terms that allow reading, and one that only lists directories
and reads texts keeps all that allow listing.

Two programs *agree* under terms if they keep them and are the same as long as the replies are fair.
They may do different things on other replies, but where the terms are upheld no run tells them
apart (`Inquiry.Agrees.run`).

## Main definitions

* `Terms`: what may be asked, and which replies are fair.
* `Inquiry.Keeps`, `Attempt.Keeps`, `Act.Keeps`: programs that keep terms, and what their results
  are then.
* `Attempt.Quiet`, `Act.Quiet`: programs that ask for no change.
* `Inquiry.stages`: the requests of a run, each with the world that it finds.
* `Inquiry.Agrees`, `Attempt.Agrees`: programs that are the same as long as the replies are fair.
* `Terms.Upheld`: worlds that keep to their side.

## Theorems

* `Inquiry.Keeps.bind`, `Attempt.Keeps.bind`, `Act.Keeps.bind`: Programs in a row.
* `Inquiry.Keeps.mono`: Stricter terms are harder to keep.
* `Inquiry.Keeps.all_asked`, `Inquiry.Keeps.no_files`: What a run asks, and one that does not look
  for files.
* `Inquiry.Keeps.run`: What holds at every stage of a run.
* `Inquiry.Agrees.bind`, `Attempt.Agrees.bind`: Programs in a row that agree with others.
* `Inquiry.Agrees.run`: Runs of programs that agree.
-/

namespace Maskwalk

/-- Whether a request is for a change of the tree. -/
def Request.isChange : Request → Bool
  | .mkdir _ | .rmdir _ | .remove _ => true
  | _ => false

/-- The path that a request looks for a file at, if it does. -/
def Request.filePath? : Request → Option Path
  | .isFile p => some p
  | _ => none

theorem Request.filePath?_normal (q : Request) :
    q.normal.filePath? = q.filePath?.map Path.normalize := by
  cases q <;> rfl

/-- What may be asked, and which replies can be relied on. -/
structure Terms where
  may : Request → Prop
  fair : (q : Request) → q.Reply → Prop

/-- No request for a change, and any replies. -/
def Terms.quiet : Terms where
  may q := q.isChange = false
  fair _ _ := True

/-- No looking for files, and any replies. -/
def Terms.blind : Terms where
  may q := q.filePath? = none
  fair _ _ := True

/-- Terms that allow all requests but those for changes. -/
def Terms.AllowsQueries (t : Terms) : Prop := ∀ q, q.isChange = false → t.may q

/-- Terms that allow all requests but those for changes and those that look for a file. -/
def Terms.AllowsReading (t : Terms) : Prop :=
  ∀ q, q.isChange = false → q.filePath? = none → t.may q

theorem Terms.AllowsQueries.reading {t : Terms} (h : t.AllowsQueries) : t.AllowsReading :=
  fun q hq _ => h q hq

/-- Terms that allow what walks and readers of texts ask for: listings, texts, and how deep a
    descent can be. -/
structure Terms.AllowsListing (t : Terms) : Prop where
  listDir : ∀ p, t.may (.listDir p)
  readText : ∀ p, t.may (.readText p)
  depth : t.may .depth

theorem Terms.AllowsReading.listing {t : Terms} (h : t.AllowsReading) : t.AllowsListing :=
  ⟨fun _ => h _ rfl rfl, fun _ => h _ rfl rfl, h _ rfl rfl⟩

theorem Terms.blind_allowsReading : Terms.blind.AllowsReading := fun _ _ hq => hq

theorem Terms.quiet_allowsReading : Terms.quiet.AllowsReading := fun _ hq _ => hq

variable {σ α β : Type} {t t' : Terms}

namespace Inquiry

/-- An inquiry that keeps terms: as long as the replies are fair, it asks for what is allowed, and
    ends with a result that fulfils a condition. -/
def Keeps (t : Terms) (post : α → Prop) : Inquiry α → Prop
  | done a => post a
  | ask q next => t.may q ∧ ∀ reply, t.fair q reply → Keeps t post (next reply)
  | say _ next => Keeps t post next

theorem Keeps.bind {i : Inquiry α} {f : α → Inquiry β} {mid : α → Prop} {post : β → Prop}
    (hi : i.Keeps t mid) (hf : ∀ a, mid a → (f a).Keeps t post) : (i.bind f).Keeps t post := by
  induction i with
  | done a => exact hf a hi
  | ask q next ih => exact ⟨hi.1, fun reply hr => ih reply (hi.2 reply hr)⟩
  | say n next ih => exact ih hi

/-- Terms that allow more and expect more of the replies are kept as well. -/
theorem Keeps.mono {i : Inquiry α} {post post' : α → Prop} (hi : i.Keeps t post)
    (hmay : ∀ q, t.may q → t'.may q) (hfair : ∀ q reply, t'.fair q reply → t.fair q reply)
    (hpost : ∀ a, post a → post' a) : i.Keeps t' post' := by
  induction i with
  | done a => exact hpost a hi
  | ask q next ih =>
      exact ⟨hmay q hi.1, fun reply hr => ih reply (hi.2 reply (hfair q reply hr))⟩
  | say n next ih => exact ih hi

/-- Under terms that expect nothing of the replies, all that reaches a world is allowed. -/
theorem Keeps.all_asked [World σ] {i : Inquiry α} {post : α → Prop} (hi : i.Keeps t post)
    (hfair : ∀ q reply, t.fair q reply) {p : Request → Prop} (hp : ∀ q, t.may q → p q.normal)
    (w : σ) : ∀ q ∈ i.asked w, p q := by
  induction i generalizing w with
  | done a => exact fun q hq => absurd hq List.not_mem_nil
  | ask q next ih =>
      exact List.forall_mem_cons.mpr ⟨hp q hi.1, ih _ (hi.2 _ (hfair q _)) _⟩
  | say n next ih => exact ih hi w

/-- An inquiry that does not look for files asks about none. -/
theorem Keeps.no_files [World σ] {i : Inquiry α} {post : α → Prop} (hi : i.Keeps Terms.blind post)
    (w : σ) : (i.asked w).filterMap Request.filePath? = [] := by
  refine List.filterMap_eq_nil_iff.mpr
    (hi.all_asked (fun _ _ => trivial) (p := fun q => q.filePath? = none) (fun q hq => ?_) w)
  rw [q.filePath?_normal, show q.filePath? = none from hq, Option.map_none]

/-- Two inquiries that keep terms, and are the same as long as the replies are fair. -/
inductive Agrees (t : Terms) (post : α → Prop) : Inquiry α → Inquiry α → Prop where
  | done {a : α} (h : post a) : Agrees t post (done a) (done a)
  | ask {q : Request} {next next' : q.Reply → Inquiry α} (hq : t.may q)
    (h : ∀ reply, t.fair q reply → Agrees t post (next reply) (next' reply)) :
    Agrees t post (ask q next) (ask q next')
  | say {n : Notice} {next next' : Inquiry α} (h : Agrees t post next next') :
    Agrees t post (say n next) (say n next')

/-- An inquiry agrees with itself under the terms that it keeps. -/
theorem Keeps.agrees {i : Inquiry α} {post : α → Prop} (hi : i.Keeps t post) :
    Agrees t post i i := by
  induction i with
  | done a => exact .done hi
  | ask q next ih => exact .ask hi.1 fun reply hr => ih reply (hi.2 reply hr)
  | say n next ih => exact .say (ih hi)

theorem Agrees.bind {i i' : Inquiry α} {f f' : α → Inquiry β} {mid : α → Prop} {post : β → Prop}
    (hi : Agrees t mid i i') (hf : ∀ a, mid a → Agrees t post (f a) (f' a)) :
    Agrees t post (i.bind f) (i'.bind f') := by
  induction hi with
  | done h => exact hf _ h
  | ask hq _ ih => exact .ask hq ih
  | say _ ih => exact .say ih

/-- The requests of a run in their order, each with the world that it finds. -/
def stages [World σ] : Inquiry α → σ → List (Request × σ)
  | done _, _ => []
  | ask q next, w => (q, w) :: stages (next (q.settled w).1) (q.settled w).2
  | say _ next, w => stages next w

end Inquiry

/-- On worlds with an invariant, allowed requests keep the invariant and get fair replies. -/
structure Terms.Upheld [World σ] (t : Terms) (inv : σ → Prop) : Prop where
  kept : ∀ q w, inv w → t.may q → inv (q.settled w).2
  fair : ∀ q w, inv w → t.may q → t.fair q (q.settled w).1

/-- Where the terms are upheld, an inquiry that keeps them asks for what is allowed only, the
    invariant holds at every stage and at the end, and the result fulfils its condition. -/
theorem Inquiry.Keeps.run [World σ] {inv : σ → Prop} (ht : t.Upheld inv) {i : Inquiry α}
    {post : α → Prop} (hi : i.Keeps t post) (w : σ) (hw : inv w) :
    (∀ q v, (q, v) ∈ i.stages w → t.may q ∧ inv v) ∧ inv (i.run w).world ∧
      post (i.run w).result := by
  induction i generalizing w with
  | done a => exact ⟨fun q v hq => absurd hq List.not_mem_nil, hw, hi⟩
  | ask q next ih =>
      rcases ih _ (hi.2 _ (ht.fair q w hw hi.1)) _ (ht.kept q w hw hi.1) with ⟨hstages, hrest⟩
      refine ⟨fun q' v hq => ?_, hrest⟩
      rcases List.mem_cons.mp hq with hq | hq
      · rw [(Prod.mk.inj hq).1, (Prod.mk.inj hq).2]
        exact ⟨hi.1, hw⟩
      · exact hstages q' v hq
  | say n next ih => exact ih hi w hw

/-- Where the terms are upheld, inquiries that agree come to the same and ask the same. -/
theorem Inquiry.Agrees.run [World σ] {inv : σ → Prop} (ht : t.Upheld inv) {i i' : Inquiry α}
    {post : α → Prop} (hi : Agrees t post i i') (w : σ) (hw : inv w) :
    i'.run w = i.run w ∧ i'.asked w = i.asked w := by
  induction hi generalizing w with
  | done _ => exact ⟨rfl, rfl⟩
  | @ask q next next' hq _ ih =>
      rcases ih _ (ht.fair q w hw hq) _ (ht.kept q w hw hq) with ⟨hrun, hasked⟩
      exact ⟨hrun, congrArg (q.normal :: ·) hasked⟩
  | @say n next next' _ ih =>
      rcases ih w hw with ⟨hrun, hasked⟩
      rw [run_say, run_say, hrun]
      exact ⟨rfl, hasked⟩

namespace Attempt

/-- An attempt that keeps terms. The condition is on its result, if it ends without a fault. -/
def Keeps (t : Terms) (post : α → Prop) (a : Attempt α) : Prop :=
  Inquiry.Keeps t (fun r => ∀ x, r = .ok x → post x) a.run

namespace Keeps

variable {post : α → Prop}

theorem pure {x : α} (h : post x) : (Pure.pure x : Attempt α).Keeps t post := by
  intro y hy
  rw [← Except.ok.inj hy]
  exact h

theorem throw (fault : Fault) : (throw fault : Attempt α).Keeps t post :=
  fun _ hy => absurd hy (by simp only [reduceCtorEq, not_false_eq_true])

theorem request {q : Request} {post : q.Reply → Prop} (hq : t.may q)
    (h : ∀ reply, t.fair q reply → post reply) : (Attempt.request q).Keeps t post := by
  refine ⟨hq, fun reply hr x hx => ?_⟩
  rw [← Except.ok.inj hx]
  exact h reply hr

theorem notice {n : Notice} {post : Unit → Prop} (h : post ()) :
    (Attempt.notice n).Keeps t post :=
  fun _ _ => h

theorem bind {a : Attempt α} {f : α → Attempt β} {mid : α → Prop} {post : β → Prop}
    (ha : a.Keeps t mid) (hf : ∀ x, mid x → (f x).Keeps t post) : (a >>= f).Keeps t post := by
  change (Inquiry.bind a.run (ExceptT.bindCont f)).Keeps t _
  rw [bindCont_eq_further]
  refine Inquiry.Keeps.bind ha fun r hr => ?_
  cases r with
  | ok x => exact hf x (hr x rfl)
  | error fault => exact throw fault

/-- Catching a fault changes nothing about what is asked. -/
theorem caught {a : Attempt α} (ha : a.Keeps t post) :
    a.caught.Keeps t fun r => ∀ x, r = .ok x → post x := by
  change (Inquiry.bind a.run fun r => Inquiry.done (Except.ok r)).Keeps t _
  refine Inquiry.Keeps.bind ha fun r hr y hy => ?_
  rw [← Except.ok.inj hy]
  exact hr

theorem weaken {a : Attempt α} {post' : α → Prop} (ha : a.Keeps t post)
    (hpost : ∀ x, post x → post' x) : a.Keeps t post' :=
  Inquiry.Keeps.mono ha (fun _ hq => hq) (fun _ _ hr => hr) fun _ hr x hx => hpost x (hr x hx)

end Keeps

/-- Two attempts that keep terms, and are the same as long as the replies are fair. -/
def Agrees (t : Terms) (post : α → Prop) (a a' : Attempt α) : Prop :=
  Inquiry.Agrees t (fun r => ∀ x, r = .ok x → post x) a.run a'.run

theorem Keeps.agrees {a : Attempt α} {post : α → Prop} (ha : a.Keeps t post) :
    Agrees t post a a :=
  Inquiry.Keeps.agrees ha

theorem Agrees.bind {a a' : Attempt α} {f f' : α → Attempt β} {mid : α → Prop} {post : β → Prop}
    (ha : Agrees t mid a a') (hf : ∀ x, mid x → Agrees t post (f x) (f' x)) :
    Agrees t post (a >>= f) (a' >>= f') := by
  change Inquiry.Agrees t _ (Inquiry.bind a.run (ExceptT.bindCont f))
    (Inquiry.bind a'.run (ExceptT.bindCont f'))
  rw [bindCont_eq_further, bindCont_eq_further]
  refine Inquiry.Agrees.bind ha fun r hr => ?_
  cases r with
  | ok x => exact hf x (hr x rfl)
  | error fault => exact (Keeps.throw fault).agrees

/-- An attempt that asks for no change. -/
def Quiet (a : Attempt α) : Prop := a.Keeps Terms.quiet fun _ => True

namespace Quiet

theorem pure (x : α) : (Pure.pure x : Attempt α).Quiet := Keeps.pure trivial

theorem throw (fault : Fault) : (throw fault : Attempt α).Quiet := Keeps.throw fault

theorem request {q : Request} (hq : q.isChange = false) : (Attempt.request q).Quiet :=
  Keeps.request hq fun _ _ => trivial

theorem notice (n : Notice) : (Attempt.notice n).Quiet := Keeps.notice trivial

theorem bind {a : Attempt α} {f : α → Attempt β} (ha : a.Quiet) (hf : ∀ x, (f x).Quiet) :
    (a >>= f).Quiet :=
  Keeps.bind ha fun x _ => hf x

/-- An attempt and what is made of its result. -/
theorem returned {a : Attempt α} (ha : a.Quiet) (f : α → β) :
    (a >>= fun x => Pure.pure (f x)).Quiet :=
  ha.bind fun x => Quiet.pure (f x)

theorem orFail (reply : Except Failure α) : (Attempt.orFail reply).Quiet := by
  cases reply with
  | ok x => exact Quiet.pure x
  | error failure => exact Quiet.throw _

/-- An attempt that asks for no change keeps all terms that allow queries. -/
theorem keeps {a : Attempt α} (ha : a.Quiet) (ht : t.AllowsQueries) :
    a.Keeps t fun _ => True :=
  Inquiry.Keeps.mono ha ht (fun _ _ _ => trivial) fun _ h => h

end Quiet

end Attempt

namespace Act

/-- An act that keeps terms, whatever is remembered. -/
def Keeps (t : Terms) (post : α → Prop) (a : Act α) : Prop :=
  ∀ m, Inquiry.Keeps t (fun r => ∀ x, r.1 = .ok x → post x) (a.start m)

namespace Keeps

variable {post : α → Prop}

theorem bind {a : Act α} {f : α → Act β} {mid : α → Prop} {post : β → Prop}
    (ha : a.Keeps t mid) (hf : ∀ x, mid x → (f x).Keeps t post) : (a >>= f).Keeps t post := by
  intro m
  change (Inquiry.bind (a.start m) fun r => (ExceptT.bindCont f r.1).run r.2).Keeps t _
  refine Inquiry.Keeps.bind (ha m) fun r hr => ?_
  rcases r with ⟨r, m'⟩
  cases r with
  | ok x => exact hf x (hr x rfl) m'
  | error fault => exact fun _ hy => absurd hy (by simp only [reduceCtorEq, not_false_eq_true])

/-- An attempt keeps as an act what it keeps. -/
theorem attempt {a : Attempt α} (ha : a.Keeps t post) : (Act.attempt a).Keeps t post :=
  fun _ => Inquiry.Keeps.bind ha fun _ hr => hr

end Keeps

/-- An act that asks for no change. -/
def Quiet (a : Act α) : Prop := a.Keeps Terms.quiet fun _ => True

namespace Quiet

theorem pure (x : α) : (Pure.pure x : Act α).Quiet := fun _ _ _ => trivial

theorem throw (fault : Fault) : (throw fault : Act α).Quiet := fun _ _ _ => trivial

theorem get : (get : Act Memory).Quiet := fun _ _ _ => trivial

theorem modify (f : Memory → Memory) : (modify f : Act PUnit).Quiet := fun _ _ _ => trivial

theorem attempt {a : Attempt α} (ha : a.Quiet) : (Act.attempt a).Quiet := Keeps.attempt ha

theorem request {q : Request} (hq : q.isChange = false) : (Act.request q).Quiet :=
  attempt (Attempt.Quiet.request hq)

theorem notice (n : Notice) : (Act.notice n).Quiet := attempt (Attempt.Quiet.notice n)

theorem bind {a : Act α} {f : α → Act β} (ha : a.Quiet) (hf : ∀ x, (f x).Quiet) :
    (a >>= f).Quiet :=
  Keeps.bind ha fun x _ => hf x

/-- An act and what is made of its result. -/
theorem returned {a : Act α} (ha : a.Quiet) (f : α → β) :
    (a >>= fun x => Pure.pure (f x)).Quiet :=
  ha.bind fun x => Quiet.pure (f x)

theorem keeps {a : Act α} (ha : a.Quiet) (ht : t.AllowsQueries) :
    a.Keeps t fun _ => True :=
  fun m => Inquiry.Keeps.mono (ha m) ht (fun _ _ _ => trivial) fun _ h => h

end Quiet

end Act

end Maskwalk

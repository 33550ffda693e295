import TimedLock.Proofs.Lock.CachedSteps
import TimedLock.Proofs.Lock.MemoryCache

/-!
# Mutual exclusion of cache mutexes

Any number of cache mutexes share one cache. They try, release and ask in any order, and time passes
in between (`Step`, `Runs`).

**Theorem (`mutual_exclusion`).** In every world that such a run can reach, at most one of the
mutexes with one key is held. And from a try that obtained the key until its owner releases it or
its time is over, the owner holds it, every further try for the key fails, every release of the key
by another mutex is refused, and what is under the key stays as it was put there.

The invariant of a run is that tokens are not shared (`Unshared`): each was drawn, and no two
mutexes have the same. A mutex whose key expired keeps its token, so there may be many tokens for
one key; but only one can be the one under the key. For the second half, what an owner added is
followed along the run (`Stands`): a try cannot overwrite it before it is over, and only the mutex
with its token can delete it.
-/

namespace TimedLock.Lock

section Runs

variable {σ ι τ γ : Type} [DecidableEq ι] [Journal σ] [Preorder τ] [DecidableLE τ] [Add τ]

/-! ## Runs -/

/-- The place of one token among those of all mutexes. -/
def ownToken (i : ι) : Slot (ι → Option String) (Option String) where
  read tokens := tokens i
  write token tokens := Function.update tokens i token

/-- One of the mutexes. -/
def mutexOf (designs : ι → Design) (i : ι) : Cached (σ × (ι → Option String)) :=
  (designs i).mutex (ownToken i)

/-- What may happen next. -/
inductive Move (ι : Type)
  | attempt (i : ι)
  | release (i : ι)
  | asks (i : ι)
  | wait

/-- One move from a world to the next. Whether a mutex fails or not, its move is made. -/
inductive Step (env : Surroundings σ) (view : σ → View τ γ) (designs : ι → Design) :
    Move ι → σ × (ι → Option String) → σ × (ι → Option String) → Prop
  | attempt (i : ι) (w : σ × (ι → Option String)) :
      Step env view designs (.attempt i) w
        ((mutexOf designs i).attempt env.shared.toCacheService w).2
  | release (i : ι) (w : σ × (ι → Option String)) :
      Step env view designs (.release i) w
        ((mutexOf designs i).release env.shared.toCacheService w).2
  | asks (i : ι) (w : σ × (ι → Option String)) :
      Step env view designs (.asks i) w
        ((mutexOf designs i).isHeld env.shared.toCacheService w).2
  | wait {w : σ × (ι → Option String)} {s : σ} : (view w.1).Passes (view s) →
      Step env view designs .wait w (s, w.2)

/-- A run of moves. -/
inductive Runs (env : Surroundings σ) (view : σ → View τ γ) (designs : ι → Design) :
    List (Move ι) → σ × (ι → Option String) → σ × (ι → Option String) → Prop
  | done (w : σ × (ι → Option String)) : Runs env view designs [] w w
  | step {move : Move ι} {moves : List (Move ι)} {u v w : σ × (ι → Option String)} :
      Step env view designs move u v → Runs env view designs moves v w →
      Runs env view designs (move :: moves) u w

/-! ## What a move can do -/

/-- What a move can do. There are three cases: nothing but time passes, a free key is added, or the
key of one's own token is deleted. -/
inductive Effect (view : σ → View τ γ) (lifetimes : Lifetimes τ) (designs : ι → Design)
    (w : σ × (ι → Option String)) : Move ι → σ × (ι → Option String) → Prop
  | passes {move : Move ι} {s : σ} : (view w.1).Passes (view s) →
      Effect view lifetimes designs w move (s, w.2)
  | obtains {i : ι} {token : String} {s : σ} : (view w.1).live (designs i).key = none →
      token ∉ (view w.1).drawn →
      view s = ((view w.1).draw token).add lifetimes (designs i).key token (designs i).expire →
      Effect view lifetimes designs w (.attempt i) (s, Function.update w.2 i (some token))
  | givesBack {i : ι} {token : String} {s : σ} : w.2 i = some token →
      (view w.1).isUnder (designs i).key token = true →
      view s = (view w.1).erase (designs i).key →
      Effect view lifetimes designs w (.release i) (s, Function.update w.2 i none)

variable {env : Surroundings σ} {view : σ → View τ γ} {lifetimes : Lifetimes τ}
  {designs : ι → Design} {move : Move ι} {moves : List (Move ι)}
  {u v w : σ × (ι → Option String)} {i j : ι}

theorem effect_of_step (h : Faithful env.toCacheService view lifetimes)
    (hx : ∀ i, lifetimes.admits (designs i).expire) (hs : Step env view designs move v w) :
    Effect view lifetimes designs v move w := by
  cases hs with
  | attempt i =>
    cases hl : (view v.1).live (designs i).key with
    | none =>
      obtain ⟨token, s, hn, hs, hv⟩ := attempt_of_free (ownToken i) h (hx i) hl
      unfold mutexOf
      rw [hs]
      exact .obtains hl hn hv
    | some entry =>
      obtain ⟨token, s, hs, hv⟩ := attempt_of_taken (ownToken i) h (hx i) hl
      unfold mutexOf
      rw [hs]
      refine .passes ?_
      rw [hv]
      exact .draw _ token
  | release i =>
    unfold mutexOf
    cases hown : (view v.1).isOwn (designs i).key ((ownToken i).read v.2) with
    | true =>
      obtain ⟨s, hs, hv⟩ := release_of_owner h (designs i) (ownToken i) v hown
      rw [hs]
      obtain ⟨token, ht, hu⟩ := View.isOwn_iff.1 hown
      exact .givesBack ht hu hv
    | false =>
      obtain ⟨s, hs, hv⟩ := release_of_stranger h (designs i) (ownToken i) v hown
      rw [hs]
      refine .passes ?_
      rw [hv]
      exact .refl _
  | asks i =>
    obtain ⟨s, hs, hv⟩ := isHeld_apply h (designs i) (ownToken i) v
    unfold mutexOf
    rw [hs]
    refine .passes ?_
    rw [hv]
    exact .refl _
  | wait hp => exact .passes hp

/-! ## Tokens -/

/-- No token is shared: each was drawn, and each belongs to one mutex only. -/
structure Unshared (view : σ → View τ γ) (w : σ × (ι → Option String)) : Prop where
  drawn : ∀ i token, w.2 i = some token → token ∈ (view w.1).drawn
  distinct : ∀ i j token, w.2 i = some token → w.2 j = some token → i = j

omit [Journal σ] in
theorem Unshared.effect (hu : Unshared view v) (he : Effect view lifetimes designs v move w) :
    Unshared view w := by
  cases he with
  | passes hp =>
    exact ⟨fun i token ht => hp.drawn_subset (hu.drawn i token ht), hu.distinct⟩
  | @obtains i token s hfree hn hv =>
    have hother {k : ι} {t : String} (hk : k ≠ i)
        (ht : Function.update v.2 i (some token) k = some t) : v.2 k = some t := by
      rw [Function.update_of_ne hk] at ht
      exact ht
    have hown {t : String} (ht : Function.update v.2 i (some token) i = some t) : t = token := by
      rw [Function.update_self] at ht
      injection ht with ht
      exact ht.symm
    constructor
    · intro k t ht
      rw [hv]
      by_cases hk : k = i
      · subst hk
        rw [hown ht]
        exact Set.mem_insert token _
      · exact Set.mem_insert_of_mem token (hu.drawn k t (hother hk ht))
    · intro k l t hkt hlt
      by_cases hk : k = i <;> by_cases hl : l = i
      · rw [hk, hl]
      · subst hk
        rw [hown hkt] at hlt
        exact (hn (hu.drawn l token (hother hl hlt))).elim
      · subst hl
        rw [hown hlt] at hkt
        exact (hn (hu.drawn k token (hother hk hkt))).elim
      · exact hu.distinct k l t (hother hk hkt) (hother hl hlt)
  | @givesBack i token s ht hunder hv =>
    have hother {k : ι} {t : String} (ht : Function.update v.2 i none k = some t) :
        v.2 k = some t := by
      by_cases hk : k = i
      · subst hk
        rw [Function.update_self] at ht
        cases ht
      · rw [Function.update_of_ne hk] at ht
        exact ht
    constructor
    · intro k t ht
      rw [hv]
      exact hu.drawn k t (hother ht)
    · intro k l t hkt hlt
      exact hu.distinct k l t (hother hkt) (hother hlt)

theorem Unshared.runs (h : Faithful env.toCacheService view lifetimes)
    (hx : ∀ i, lifetimes.admits (designs i).expire) (hr : Runs env view designs moves v w)
    (hu : Unshared view v) : Unshared view w := by
  induction hr with
  | done => exact hu
  | step hs _ ih => exact ih (hu.effect (effect_of_step h hx hs))

/-! ## What an owner added -/

/-- What a mutex added stands: until it is over, it is under its key, and the mutex has its
token. -/
structure Stands (view : σ → View τ γ) (lifetimes : Lifetimes τ) (i : ι) (a : Addition τ)
    (w : σ × (ι → Option String)) : Prop where
  keeps : (view w.1).Keeps lifetimes a
  token : a.IsOver lifetimes (view w.1).clock ∨ w.2 i = some a.token

variable {a : Addition τ}

omit [Journal σ] in
theorem Stands.effect (hs : Stands view lifetimes i a v) (hu : Unshared view v)
    (hk : a.key = (designs i).key) (he : Effect view lifetimes designs v move w)
    (hm : move ≠ .release i) : Stands view lifetimes i a w := by
  cases he with
  | passes hp => exact ⟨hs.keeps.passes hp, hs.token.imp (·.mono hp.clock_le) id⟩
  | @obtains j token s hfree hn hv =>
    have hkeeps : ((view v.1).draw token).Keeps lifetimes a := hs.keeps.passes (.draw _ token)
    refine ⟨?_, ?_⟩
    · rw [hv]
      exact hkeeps.add hfree
    · rw [hv]
      by_cases hj : i = j
      · -- its own new try can only have gone through because the addition is over
        subst hj
        refine .inl (hs.keeps.resolve_right fun hl => ?_)
        rw [hk, hfree] at hl
        cases hl
      · exact hs.token.imp id fun ht => (Function.update_of_ne hj _ _).trans ht
  | @givesBack j token s ht hunder hv =>
    have hj : i ≠ j := by
      rintro rfl
      exact hm rfl
    refine ⟨?_, ?_⟩
    · rw [hv]
      rcases hs.token with ho | hown
      · exact .inl ho
      · refine hs.keeps.erase hunder ?_
        rintro rfl
        exact hj (hu.distinct i j _ hown ht)
    · rw [hv]
      exact hs.token.imp id fun ht => (Function.update_of_ne hj _ _).trans ht

theorem Stands.runs (h : Faithful env.toCacheService view lifetimes)
    (hx : ∀ i, lifetimes.admits (designs i).expire) (hr : Runs env view designs moves v w)
    (hu : Unshared view v) (hk : a.key = (designs i).key) (hm : .release i ∉ moves)
    (hs : Stands view lifetimes i a v) : Stands view lifetimes i a w := by
  induction hr with
  | done => exact hs
  | step hstep _ ih =>
    have he := effect_of_step h hx hstep
    have hne := List.ne_of_not_mem_cons hm
    exact ih (hu.effect he) (List.not_mem_of_not_mem_cons hm) (hs.effect hu hk he (Ne.symm hne))

/-! ## Mutual exclusion -/

/-- A mutex says that it is held. -/
def Holds (env : Surroundings σ) (designs : ι → Design) (w : σ × (ι → Option String)) (i : ι) :
    Prop :=
  ((mutexOf designs i).isHeld env.shared.toCacheService w).1 = .ok (.bool true)

/-- What an owner may rely on in `w`, once it obtained its key in `v`. -/
structure KeepsOut (env : Surroundings σ) (view : σ → View τ γ) (designs : ι → Design) (i : ι)
    (v w : σ × (ι → Option String)) : Prop where
  held : Holds env designs w i
  /-- Every try for the key fails, the owner's own included. -/
  shut : ∀ j, (designs j).key = (designs i).key →
    ((mutexOf designs j).attempt env.shared.toCacheService w).1 = .ok false
  /-- No other mutex may release the key. -/
  refused : ∀ j, j ≠ i → (designs j).key = (designs i).key →
    ((mutexOf designs j).release env.shared.toCacheService w).1
      = .error (Problem.taskLockNotHeld (designs j).name).fault
  /-- What is under the key, and the token of the owner, are what they were. -/
  unchanged : (view w.1).live (designs i).key = (view v.1).live (designs i).key ∧ w.2 i = v.2 i

theorem holds_iff (h : Faithful env.toCacheService view lifetimes) :
    Holds env designs w i ↔ (view w.1).isOwn (designs i).key (w.2 i) = true := by
  obtain ⟨s, hs, -⟩ := isHeld_apply h (designs i) (ownToken i) w
  unfold Holds mutexOf
  rw [hs]
  constructor
  · intro he
    injection he with he
    injection he
  · intro he
    exact congrArg (fun b => Except.ok (Value.bool b)) he

/-- Two mutexes with one key are not both held. -/
theorem Unshared.eq_of_holds (h : Faithful env.toCacheService view lifetimes)
    (hu : Unshared view w) (hk : (designs i).key = (designs j).key) (hi : Holds env designs w i)
    (hj : Holds env designs w j) : i = j := by
  obtain ⟨s, hs, hus⟩ := View.isOwn_iff.1 ((holds_iff h).1 hi)
  obtain ⟨t, ht, hut⟩ := View.isOwn_iff.1 ((holds_iff h).1 hj)
  rw [hk] at hus
  cases View.eq_of_isUnder hus hut
  exact hu.distinct i j s hs ht

/-- An owner may rely on what it added until it is over. -/
theorem Stands.keepsOut (h : Faithful env.toCacheService view lifetimes)
    (hx : ∀ i, lifetimes.admits (designs i).expire) (hu : Unshared view w)
    (hk : a.key = (designs i).key) (hv : Stands view lifetimes i a v)
    (hw : Stands view lifetimes i a w) (hle : (view v.1).clock ≤ (view w.1).clock)
    (hn : ¬ a.IsOver lifetimes (view w.1).clock) : KeepsOut env view designs i v w := by
  have hn' : ¬ a.IsOver lifetimes (view v.1).clock := fun ho => hn (ho.mono hle)
  have hlive : (view w.1).live (designs i).key = some (a.entry lifetimes) := by
    rw [← hk]
    exact hw.keeps.resolve_left hn
  have hunder : (view w.1).isUnder (designs i).key a.token = true := by
    rw [← hk]
    exact hw.keeps.isUnder hn
  have htoken : w.2 i = some a.token := hw.token.resolve_left hn
  refine ⟨?_, ?_, ?_, ?_, ?_⟩
  · rw [holds_iff h]
    exact View.isOwn_iff.2 ⟨a.token, htoken, hunder⟩
  · intro j hj
    rw [← hj] at hlive
    obtain ⟨token, s, hs, -⟩ := attempt_of_taken (ownToken j) h (hx j) hlive
    unfold mutexOf
    rw [hs]
  · intro j hne hj
    have hstranger : (view w.1).isOwn (designs j).key ((ownToken j).read w.2) = false := by
      refine Bool.eq_false_iff.2 fun hown => hne ?_
      obtain ⟨t, ht, hut⟩ := View.isOwn_iff.1 hown
      rw [hj] at hut
      cases View.eq_of_isUnder hunder hut
      exact hu.distinct j i _ ht htoken
    obtain ⟨s, hs, -⟩ := release_of_stranger h (designs j) (ownToken j) w hstranger
    unfold mutexOf
    rw [hs]
  · rw [hlive, ← hk]
    exact (hv.keeps.resolve_left hn').symm
  · rw [htoken, hv.token.resolve_left hn']

/-- A try that obtained the key added it. -/
theorem stands_of_attempt (h : Faithful env.toCacheService view lifetimes)
    (hx : ∀ i, lifetimes.admits (designs i).expire)
    (ha : (mutexOf designs i).attempt env.shared.toCacheService v = (.ok true, w)) :
    (view w.1).clock = (view v.1).clock ∧ ∃ token,
      Stands view lifetimes i
        ⟨(designs i).key, token, (designs i).expire, (view v.1).clock⟩ w := by
  unfold mutexOf at ha
  cases hl : (view v.1).live (designs i).key with
  | some entry =>
    obtain ⟨token, s, hs, -⟩ := attempt_of_taken (ownToken i) h (hx i) hl
    rw [hs] at ha
    cases ha
  | none =>
    obtain ⟨token, s, -, hs, hv⟩ := attempt_of_free (ownToken i) h (hx i) hl
    rw [hs] at ha
    cases ha
    refine ⟨by rw [hv]; rfl, token, ?_, .inr (Function.update_self _ _ _)⟩
    rw [hv]
    exact View.keeps_add

omit [Journal σ] in
theorem Effect.clock_le (he : Effect view lifetimes designs v move w) :
    (view v.1).clock ≤ (view w.1).clock := by
  cases he with
  | passes hp => exact hp.clock_le
  | obtains _ _ hv =>
    rw [hv]
    exact le_refl _
  | givesBack _ _ hv =>
    rw [hv]
    exact le_refl _

theorem Runs.clock_le (h : Faithful env.toCacheService view lifetimes)
    (hx : ∀ i, lifetimes.admits (designs i).expire) (hr : Runs env view designs moves v w) :
    (view v.1).clock ≤ (view w.1).clock := by
  induction hr with
  | done => exact le_refl _
  | step hs _ ih => exact le_trans (effect_of_step h hx hs).clock_le ih

/-- **Mutual exclusion.** Let the mutexes start without tokens, on any cache. In every world that
they reach, at most one of those with one key is held. If one of them then tries and obtains its
key, it is protected by `KeepsOut` in every later world, as long as it did not release the key
itself and the time for which it added the key is not over. -/
theorem mutual_exclusion (h : Faithful env.toCacheService view lifetimes)
    (hx : ∀ i, lifetimes.admits (designs i).expire) (hstart : ∀ i, u.2 i = none)
    (hr : Runs env view designs moves u v) :
    (∀ i j, (designs i).key = (designs j).key → Holds env designs v i → Holds env designs v j →
      i = j) ∧
    ∀ i v', (mutexOf designs i).attempt env.shared.toCacheService v = (.ok true, v') →
      ∀ moves' w, Runs env view designs moves' v' w → .release i ∉ moves' →
        ¬ lifetimes.Over (designs i).expire (view v.1).clock (view w.1).clock →
        KeepsOut env view designs i v' w := by
  have hnone : Unshared view u := by
    constructor
    · intro i token ht
      rw [hstart i] at ht
      cases ht
    · intro i j token ht
      rw [hstart i] at ht
      cases ht
  have hv : Unshared view v := hnone.runs h hx hr
  refine ⟨fun i j => hv.eq_of_holds h, ?_⟩
  intro i v' ha moves' w hr' hm hn
  have hv' : Unshared view v' := by
    have hs : Step env view designs (.attempt i) v _ := .attempt i v
    rw [ha] at hs
    exact hv.effect (effect_of_step h hx hs)
  obtain ⟨hclock, token, hstands⟩ := stands_of_attempt h hx ha
  have hle := Runs.clock_le h hx hr'
  exact hstands.keepsOut h hx (hv'.runs h hx hr') rfl (hstands.runs h hx hr' hv' rfl hm) hle hn

end Runs

/-! ## Two mutexes for one job -/

/-- Two mutexes with one name, whose keys expire after a minute. -/
def jobs : Bool → Design := fun _ => ⟨.text "job", .int 60, .int 1⟩

/-- The world in which neither has tried. -/
def idleJobs : Memory × (Bool → Option String) := (.fresh, fun _ => none)

/-- The world after one of them tried. -/
def oneJob : Memory × (Bool → Option String) :=
  ((mutexOf jobs false).attempt Memory.surroundings.shared.toCacheService idleJobs).2

/-- Half a minute later, the one that tried keeps the other out. -/
theorem keepsOut_after_half_a_minute :
    ((mutexOf jobs false).attempt Memory.surroundings.shared.toCacheService idleJobs).1 = .ok true ∧
      ¬ wholeSeconds.Over (.int 60) ⟨0⟩ ⟨30⟩ ∧
      KeepsOut Memory.surroundings Memory.view jobs false oneJob (oneJob.1.after 30, oneJob.2) := by
  have hobtained : ((mutexOf jobs false).attempt Memory.surroundings.shared.toCacheService
      idleJobs).1 = .ok true := rfl
  have hover : ¬ wholeSeconds.Over (.int 60) ⟨0⟩ ⟨30⟩ := by
    rintro ⟨d, hd, hle⟩
    cases hd
    exact absurd hle (by decide)
  refine ⟨hobtained, hover, ?_⟩
  have hadmits : ∀ i, wholeSeconds.admits (jobs i).expire := fun _ => .inr ⟨60, rfl⟩
  have hruns : Runs Memory.surroundings Memory.view jobs [.wait] oneJob
      (oneJob.1.after 30, oneJob.2) := .step (.wait (Memory.passes_after _ 30)) (.done _)
  exact (mutual_exclusion Memory.faithful.toFaithful hadmits (fun _ => rfl) (.done idleJobs)).2
    false oneJob (Prod.ext hobtained rfl) [.wait] _ hruns (by simp) hover

end TimedLock.Lock

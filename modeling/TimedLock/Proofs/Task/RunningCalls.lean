import TimedLock.Proofs.Lock.MutualExclusion
import TimedLock.Proofs.Task.GuardedCall

/-!
# What running calls rely on

While the bodies of guarded calls run, others use the cache too: calls inside those bodies, and
mutexes of other owners. The invariant (`Steady`) says what a running call may rely on: nobody else
has its token, its token is under no key but its own, and what it added is under its key until it is
over.

Each thing that can happen has one lemma here: time passes, a fresh token is added under a free key,
the key of one's own token is deleted, and a call begins to run (`Steady.push`) or ends
(`Steady.settle`). Whatever other mutexes do is made of these (`Steady.runs`).
-/

namespace TimedLock.Task

open Lock

section Steady

variable {σ ι τ γ : Type} [Preorder τ] [DecidableLE τ] [Add τ]

/-- What the running calls, given by what each added, may rely on, where other owners have the
tokens `tokens`. -/
structure Steady (lifetimes : Lifetimes τ) (running : List (Addition τ)) (v : View τ γ)
    (tokens : ι → Option String) : Prop where
  token_drawn : ∀ i token, tokens i = some token → token ∈ v.drawn
  under_drawn : ∀ key token, v.isUnder key token = true → token ∈ v.drawn
  running_drawn : ∀ a ∈ running, a.token ∈ v.drawn
  running_distinct : (running.map Addition.token).Nodup
  /-- Nobody else has the token of a running call. -/
  apart : ∀ a ∈ running, ∀ i, tokens i ≠ some a.token
  /-- What a running call added stands until it is over. -/
  keeps : ∀ a ∈ running, v.Keeps lifetimes a
  /-- The token of a running call is under no other key. -/
  under_own : ∀ a ∈ running, ∀ key, v.isUnder key a.token = true → key = a.key

namespace Steady

variable {lifetimes : Lifetimes τ} {running : List (Addition τ)} {v u : View τ γ}
  {tokens : ι → Option String} {a : Addition τ} {key token : String} {expire : Value}

theorem passes (h : Steady lifetimes running v tokens) (hp : v.Passes u) :
    Steady lifetimes running u tokens where
  token_drawn i token ht := hp.drawn_subset (h.token_drawn i token ht)
  under_drawn key token hu := hp.drawn_subset (h.under_drawn key token (hp.isUnder hu))
  running_drawn a ha := hp.drawn_subset (h.running_drawn a ha)
  running_distinct := h.running_distinct
  apart := h.apart
  keeps a ha := (h.keeps a ha).passes hp
  under_own a ha key hu := h.under_own a ha key (hp.isUnder hu)

/-- A fresh token under a free key disturbs no running call. -/
theorem add (h : Steady lifetimes running v tokens) (hfresh : token ∉ v.drawn)
    (hfree : v.live key = none) :
    Steady lifetimes running ((v.draw token).add lifetimes key token expire) tokens := by
  have hd := h.passes (View.Passes.draw v token)
  refine ⟨hd.token_drawn, ?_, hd.running_drawn, hd.running_distinct, hd.apart, ?_, ?_⟩
  · intro other t hu
    rcases View.isUnder_add_cases hu with ⟨-, rfl⟩ | hv
    · exact Set.mem_insert t v.drawn
    · exact hd.under_drawn other t hv
  · intro a ha
    exact (hd.keeps a ha).add hfree
  · intro a ha other hu
    rcases View.isUnder_add_cases hu with ⟨-, ht⟩ | hv
    · exact (hfresh (ht ▸ h.running_drawn a ha)).elim
    · exact hd.under_own a ha other hv

/-- Nor does it disturb one that the key of somebody else's token is deleted. -/
theorem erase (h : Steady lifetimes running v tokens) (hu : v.isUnder key token = true)
    (hne : ∀ a ∈ running, token ≠ a.token) :
    Steady lifetimes running (v.erase key) tokens where
  token_drawn := h.token_drawn
  under_drawn other t ht := h.under_drawn other t (View.isUnder_of_erase ht).2
  running_drawn := h.running_drawn
  running_distinct := h.running_distinct
  apart := h.apart
  keeps a ha := (h.keeps a ha).erase hu (hne a ha)
  under_own a ha other ht := h.under_own a ha other (View.isUnder_of_erase ht).2

/-- Another owner may change its token for one that no running call has. -/
theorem assign [DecidableEq ι] (h : Steady lifetimes running v tokens) (i : ι)
    {own : Option String}
    (hown : ∀ token, own = some token → token ∈ v.drawn ∧ ∀ a ∈ running, token ≠ a.token) :
    Steady lifetimes running v (Function.update tokens i own) := by
  refine { h with token_drawn := ?_, apart := ?_ }
  · intro j token ht
    by_cases hj : j = i
    · subst hj
      rw [Function.update_self] at ht
      exact (hown token ht).1
    · rw [Function.update_of_ne hj] at ht
      exact h.token_drawn j token ht
  · intro a ha j ht
    by_cases hj : j = i
    · subst hj
      rw [Function.update_self] at ht
      exact (hown a.token ht).2 a ha rfl
    · rw [Function.update_of_ne hj] at ht
      exact h.apart a ha j ht

/-- A call begins to run with a fresh token under its key, which was free. -/
theorem push (h : Steady lifetimes running v tokens) (hfresh : token ∉ v.drawn)
    (hfree : v.live key = none) :
    Steady lifetimes (⟨key, token, expire, v.clock⟩ :: running)
      ((v.draw token).add lifetimes key token expire) tokens := by
  have hold : Steady lifetimes running ((v.draw token).add lifetimes key token expire) tokens :=
    h.add hfresh hfree
  refine ⟨hold.token_drawn, hold.under_drawn, ?_, ?_, ?_, ?_, ?_⟩
  · rintro a (_ | ⟨_, ha⟩)
    · exact Set.mem_insert token v.drawn
    · exact hold.running_drawn a ha
  · refine List.nodup_cons.2 ⟨fun hmem => ?_, h.running_distinct⟩
    obtain ⟨a, ha, he⟩ := List.mem_map.1 hmem
    have hdrawn := h.running_drawn a ha
    rw [he] at hdrawn
    exact hfresh hdrawn
  · rintro a (_ | ⟨_, ha⟩) i
    · exact fun ht => hfresh (h.token_drawn i token ht)
    · exact hold.apart a ha i
  · rintro a (_ | ⟨_, ha⟩)
    · exact View.keeps_add
    · exact hold.keeps a ha
  · rintro a (_ | ⟨_, ha⟩) other hu
    · rcases View.isUnder_add_cases hu with ⟨hk, -⟩ | hv
      · exact hk
      · exact (hfresh (h.under_drawn other token hv)).elim
    · exact hold.under_own a ha other hu

theorem pop (h : Steady lifetimes (a :: running) v tokens) : Steady lifetimes running v tokens where
  token_drawn := h.token_drawn
  under_drawn := h.under_drawn
  running_drawn b hb := h.running_drawn b (.tail a hb)
  running_distinct := (List.nodup_cons.1 h.running_distinct).2
  apart b hb := h.apart b (.tail a hb)
  keeps b hb := h.keeps b (.tail a hb)
  under_own b hb := h.under_own b (.tail a hb)

/-- A call that ends settles what it added, which disturbs no call that goes on. -/
theorem settle (h : Steady lifetimes (a :: running) v tokens) :
    Steady lifetimes running (Guard.settle v a) tokens := by
  unfold Guard.settle
  by_cases hu : v.isUnder a.key a.token = true
  · rw [if_pos hu]
    refine h.pop.erase hu fun b hb he => ?_
    have hn := (List.nodup_cons.1 h.running_distinct).1
    exact hn (List.mem_map.2 ⟨b, hb, he.symm⟩)
  · rw [if_neg hu]
    exact h.pop

/-- What a call added leaves nothing behind. -/
theorem isUnder_settle (h : Steady lifetimes (a :: running) v tokens) (key : String) :
    (Guard.settle v a).isUnder key a.token = false := by
  refine Bool.eq_false_iff.2 fun hu => ?_
  unfold Guard.settle at hu
  by_cases hown : v.isUnder a.key a.token = true
  · rw [if_pos hown] at hu
    obtain ⟨hne, hv⟩ := View.isUnder_of_erase hu
    exact hne (h.under_own a (.head _) key hv)
  · rw [if_neg hown] at hu
    have hk := h.under_own a (.head _) key hu
    rw [hk] at hu
    exact hown hu

end Steady

omit [Add τ] in
/-- What settling leaves under a key that has another token. -/
theorem live_settle {v : View τ γ} {a : Addition τ} {key : String} {entry : Stored τ Value}
    (hl : v.live key = some entry) (hu : v.isUnder key a.token = false) :
    (Guard.settle v a).live key = some entry := by
  unfold Guard.settle
  by_cases hown : v.isUnder a.key a.token = true
  · rw [if_pos hown]
    have hne : key ≠ a.key := by
      rintro rfl
      rw [hown] at hu
      cases hu
    rw [View.live_erase_of_ne hne]
    exact hl
  · rw [if_neg hown]
    exact hl

/-! ## Other mutexes -/

section Others

variable [DecidableEq ι] [Journal σ] {env : Surroundings σ} {view : σ → View τ γ}
  {lifetimes : Lifetimes τ} {designs : ι → Design} {move : Move ι} {moves : List (Move ι)}
  {v w : σ × (ι → Option String)} {running : List (Addition τ)}

omit [Journal σ] in
/-- No move of another mutex disturbs a running call. -/
theorem Steady.effect (h : Steady lifetimes running (view v.1) v.2)
    (he : Effect view lifetimes designs v move w) :
    Steady lifetimes running (view w.1) w.2 := by
  cases he with
  | passes hp => exact h.passes hp
  | @obtains i token s hfree hfresh hv =>
    rw [hv]
    refine (h.add hfresh hfree).assign i ?_
    rintro t ⟨⟩
    refine ⟨Set.mem_insert token _, fun a ha he => hfresh ?_⟩
    exact he ▸ h.running_drawn a ha
  | @givesBack i token s ht hu hv =>
    rw [hv]
    refine (h.erase hu fun a ha he => ?_).assign i (by rintro t ⟨⟩)
    exact h.apart a ha i (he ▸ ht)

theorem Steady.runs (hc : Faithful env.toCacheService view lifetimes)
    (hx : ∀ i, lifetimes.admits (designs i).expire) (hr : Runs env view designs moves v w)
    (h : Steady lifetimes running (view v.1) v.2) : Steady lifetimes running (view w.1) w.2 := by
  induction hr with
  | done => exact h
  | step hs _ ih => exact ih (h.effect (effect_of_step hc hx hs))

end Others

end Steady

end TimedLock.Task

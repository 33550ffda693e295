import Mathlib.Data.Set.Insert
import Mathlib.Logic.Function.Basic
import Mathlib.Order.Basic
import TimedLock.ExpiringStore
import TimedLock.Lock.Cached
import TimedLock.Proofs.Run

/-!
# What is relied on of a shared cache

The cache is a service of its own, and so are its clock and the source of the tokens. This module
says what cache mutexes rely on, in terms of what can be seen of a world (`View`): which keys have a
live entry, which tokens were drawn, which keys were added.

**The contract** (`Faithful`). Adding stores a token if and only if the key has no live entry, and
tells which. Getting and deleting do what they say. A token that is drawn was never drawn before. No
operation fails, and nothing else changes.

**Time** (`View.Passes`). Between two operations the clock may move on. An entry is gone once the
clock reaches its expiry, and nothing else happens to any key.

The clock is any preorder with an addition. How long an entry lives is told by `Lifetimes`: for good
where no time was given, and not at all where the time is zero.
-/

namespace TimedLock

/-- What lives at an instant was alive before. -/
theorem Stored.isLive_of_le {τ : Type} [Preorder τ] [DecidableLE τ] {entry : Stored τ Value}
    {now later : τ} (h : entry.isLive later = true) (hle : now ≤ later) :
    entry.isLive now = true := by
  unfold Stored.isLive at h ⊢
  cases hx : entry.expiry with
  | none => rfl
  | some expiry =>
    have hn : ¬ expiry ≤ later := by simpa [hx] using h
    simpa using fun he => hn (le_trans he hle)

/-- Of what is alive later, nothing is missing now. -/
theorem Stored.filter_isLive_filter {τ : Type} [Preorder τ] [DecidableLE τ] {now later : τ}
    (hle : now ≤ later) (o : Option (Stored τ Value)) :
    (o.filter (·.isLive now)).filter (·.isLive later) = o.filter (·.isLive later) := by
  cases o with
  | none => rfl
  | some entry =>
    cases hl : entry.isLive later with
    | true =>
      have hn := Stored.isLive_of_le hl hle
      simp only [Option.filter_some, hn, hl, if_true]
    | false => by_cases hn : entry.isLive now = true <;> simp [Option.filter_some, hn, hl]

namespace Lock

/-! ## Lifetimes -/

/-- How long a key lives that is stored for a time. -/
structure Lifetimes (τ : Type) [Preorder τ] [Add τ] where
  /-- The times that the cache takes. -/
  admits : Value → Prop
  /-- The time as the clock measures it, if the key expires at all. -/
  span : Value → Option τ
  span_null : span .null = none
  /-- What is stored for no time at all is over at once. -/
  span_zero : ∃ d, span (.int 0) = some d ∧ ∀ now, now + d ≤ now

/-- Whether what was stored for a time at one instant has expired at another: never if it was
stored for good. -/
def Lifetimes.Over {τ : Type} [Preorder τ] [Add τ] (lifetimes : Lifetimes τ) (expire : Value)
    (since now : τ) : Prop :=
  ∃ d, lifetimes.span expire = some d ∧ since + d ≤ now

namespace Lifetimes.Over

variable {τ : Type} [Preorder τ] [Add τ] {lifetimes : Lifetimes τ} {expire : Value}
  {since now later : τ}

theorem mono (h : lifetimes.Over expire since now) (hle : now ≤ later) :
    lifetimes.Over expire since later := by
  obtain ⟨d, hd, hn⟩ := h
  exact ⟨d, hd, le_trans hn hle⟩

theorem ne_null (h : lifetimes.Over expire since now) : expire ≠ .null := by
  obtain ⟨d, hd, -⟩ := h
  intro he
  rw [he, lifetimes.span_null] at hd
  cases hd

/-- What is stored for a time of zero is over as it is stored. -/
theorem of_zero (lifetimes : Lifetimes τ) (now : τ) : lifetimes.Over (.int 0) now now := by
  obtain ⟨d, hd, hle⟩ := lifetimes.span_zero
  exact ⟨d, hd, hle now⟩

end Lifetimes.Over

/-- A key that was added: the token under it, for how long, and what the clock read. -/
structure Addition (τ : Type) where
  key : String
  token : String
  expire : Value
  clock : τ

namespace Addition

variable {τ : Type} [Preorder τ] [Add τ] {lifetimes : Lifetimes τ} {a : Addition τ} {now : τ}

/-- What an addition stores. -/
def entry (lifetimes : Lifetimes τ) (a : Addition τ) : Stored τ Value :=
  ⟨.text a.token, (lifetimes.span a.expire).map (a.clock + ·)⟩

/-- Whether an addition has expired. -/
def IsOver (lifetimes : Lifetimes τ) (a : Addition τ) (now : τ) : Prop :=
  lifetimes.Over a.expire a.clock now

theorem isLive_entry_iff [DecidableLE τ] :
    (a.entry lifetimes).isLive now = true ↔ ¬ a.IsOver lifetimes now := by
  unfold entry IsOver Lifetimes.Over Stored.isLive
  cases lifetimes.span a.expire with
  | none => simp
  | some d => simp

end Addition

/-! ## What is seen of a cache -/

/-- What can be seen of a world: its cache, and the rest. -/
@[ext]
structure View (τ γ : Type) [LE τ] [DecidableLE τ] where
  clock : τ
  /-- The live entry of each key. -/
  live : String → Option (Stored τ Value)
  /-- The tokens that were drawn so far. -/
  drawn : Set String
  /-- The keys that were added so far, the latest first. -/
  additions : List (Addition τ)
  /-- What neither the cache nor its clock has a part in. -/
  rest : γ
  isLive_of_live : ∀ key entry, live key = some entry → entry.isLive clock = true

namespace View

variable {τ γ : Type} [Preorder τ] [DecidableLE τ] [Add τ]

/-- Draws a token. -/
def draw (v : View τ γ) (token : String) : View τ γ := { v with drawn := insert token v.drawn }

omit [Add τ] in
theorem isLive_of_update (v : View τ γ) {key : String} {new : Option (Stored τ Value)}
    (h : ∀ entry, new = some entry → entry.isLive v.clock = true) (other : String)
    (entry : Stored τ Value) (he : Function.update v.live key new other = some entry) :
    entry.isLive v.clock = true := by
  by_cases hk : other = key
  · subst hk
    rw [Function.update_self] at he
    exact h entry he
  · rw [Function.update_of_ne hk] at he
    exact v.isLive_of_live other entry he

/-- Adds a key. Where the time is over at once, no live entry comes of it. -/
def add (v : View τ γ) (lifetimes : Lifetimes τ) (key token : String) (expire : Value) :
    View τ γ :=
  let a : Addition τ := ⟨key, token, expire, v.clock⟩
  { v with
    live := Function.update v.live key ((some (a.entry lifetimes)).filter (·.isLive v.clock))
    additions := a :: v.additions
    isLive_of_live := v.isLive_of_update fun _ h => (Option.filter_eq_some_iff.1 h).2 }

/-- Deletes a key. -/
def erase (v : View τ γ) (key : String) : View τ γ :=
  { v with
    live := Function.update v.live key none
    isLive_of_live := v.isLive_of_update fun _ h => nomatch h }

/-- The value under a key. -/
def value (v : View τ γ) (key : String) : Value := ((v.live key).map (·.value)).getD .null

/-- Whether a token is the one under a key. -/
def isUnder (v : View τ γ) (key token : String) : Bool := (v.value key).isText token

/-- Whether a token, if there is one, is the one under a key. -/
def isOwn (v : View τ γ) (key : String) (token : Option String) : Bool := token.any (v.isUnder key)

/-- Time passes. Tokens may be drawn meanwhile, but no key is written. -/
structure Passes (v u : View τ γ) : Prop where
  clock_le : v.clock ≤ u.clock
  drawn_subset : v.drawn ⊆ u.drawn
  live_eq : ∀ key, u.live key = (v.live key).filter (·.isLive u.clock)
  additions_eq : u.additions = v.additions
  rest_eq : u.rest = v.rest

/-- What an addition stored is still there, unless it is over. -/
def Keeps (v : View τ γ) (lifetimes : Lifetimes τ) (a : Addition τ) : Prop :=
  a.IsOver lifetimes v.clock ∨ v.live a.key = some (a.entry lifetimes)

/-! ### One operation after another -/

variable {v u w : View τ γ} {lifetimes : Lifetimes τ} {key other token : String} {expire : Value}
  {entry : Stored τ Value} {a : Addition τ}

omit [Add τ] in
theorem isUnder_iff :
    v.isUnder key token = true ↔ ∃ expiry, v.live key = some ⟨.text token, expiry⟩ := by
  unfold isUnder value
  rcases v.live key with _ | ⟨value, expiry⟩
  · simp [Value.isText]
  · cases value <;> simp [Value.isText]

omit [Add τ] in
/-- Only one token is under a key. -/
theorem eq_of_isUnder {t : String} (h : v.isUnder key token = true)
    (h' : v.isUnder key t = true) : token = t := by
  obtain ⟨expiry, he⟩ := isUnder_iff.1 h
  obtain ⟨expiry', he'⟩ := isUnder_iff.1 h'
  rw [he] at he'
  injection he' with he'
  injection congrArg Stored.value he'

omit [Add τ] in
theorem isOwn_iff {own : Option String} :
    v.isOwn key own = true ↔ ∃ t, own = some t ∧ v.isUnder key t = true := by
  unfold isOwn
  cases own with
  | none => simp
  | some t => simp

theorem live_add_of_ne (h : other ≠ key) :
    (v.add lifetimes key token expire).live other = v.live other :=
  Function.update_of_ne h _ _

omit [Add τ] in
theorem live_erase_of_ne (h : other ≠ key) : (v.erase key).live other = v.live other :=
  Function.update_of_ne h _ _

omit [Add τ] in
theorem live_erase_self : (v.erase key).live key = none := by
  show Function.update v.live key none key = none
  rw [Function.update_self]

theorem live_add_self : (v.add lifetimes key token expire).live key
    = (some (Addition.entry lifetimes ⟨key, token, expire, v.clock⟩)).filter
        (·.isLive v.clock) := by
  show Function.update v.live key _ key = _
  rw [Function.update_self]

/-- What is under a key after an addition is what was added or what was there before. -/
theorem live_add_cases (h : (v.add lifetimes key token expire).live other = some entry) :
    (other = key ∧ entry.value = .text token) ∨ v.live other = some entry := by
  by_cases hk : other = key
  · subst hk
    rw [live_add_self] at h
    cases (Option.filter_eq_some_iff.1 h).1
    exact .inl ⟨rfl, rfl⟩
  · rw [live_add_of_ne hk] at h
    exact .inr h

omit [Add τ] in
theorem live_of_live_erase (h : (v.erase key).live other = some entry) :
    v.live other = some entry := by
  by_cases hk : other = key
  · subst hk
    rw [live_erase_self] at h
    cases h
  · rw [live_erase_of_ne hk] at h
    exact h

theorem isUnder_add_cases {t : String}
    (h : (v.add lifetimes key token expire).isUnder other t = true) :
    (other = key ∧ t = token) ∨ v.isUnder other t = true := by
  obtain ⟨expiry, he⟩ := isUnder_iff.1 h
  rcases live_add_cases he with ⟨hk, ht⟩ | hl
  · injection ht with ht
    exact .inl ⟨hk, ht⟩
  · exact .inr (isUnder_iff.2 ⟨expiry, hl⟩)

omit [Add τ] in
theorem isUnder_of_erase {t : String} (h : (v.erase key).isUnder other t = true) :
    other ≠ key ∧ v.isUnder other t = true := by
  obtain ⟨expiry, he⟩ := isUnder_iff.1 h
  refine ⟨?_, isUnder_iff.2 ⟨expiry, live_of_live_erase he⟩⟩
  rintro rfl
  rw [live_erase_self] at he
  cases he

/-! ### Time -/

namespace Passes

omit [Add τ]

theorem refl (v : View τ γ) : v.Passes v where
  clock_le := le_refl _
  drawn_subset := subset_rfl
  live_eq key := by
    cases h : v.live key with
    | none => rfl
    | some entry => rw [Option.filter_some, if_pos (v.isLive_of_live key entry h)]
  additions_eq := rfl
  rest_eq := rfl

theorem trans (h : v.Passes u) (h' : u.Passes w) : v.Passes w where
  clock_le := le_trans h.clock_le h'.clock_le
  drawn_subset := h.drawn_subset.trans h'.drawn_subset
  live_eq key := by
    rw [h'.live_eq, h.live_eq, Stored.filter_isLive_filter h'.clock_le]
  additions_eq := h'.additions_eq.trans h.additions_eq
  rest_eq := h'.rest_eq.trans h.rest_eq

theorem draw (v : View τ γ) (token : String) : v.Passes (v.draw token) :=
  { refl v with drawn_subset := Set.subset_insert token v.drawn }

theorem live (h : v.Passes u) (he : u.live key = some entry) : v.live key = some entry := by
  rw [h.live_eq] at he
  exact (Option.filter_eq_some_iff.1 he).1

theorem isUnder (h : v.Passes u) (hu : u.isUnder key token = true) :
    v.isUnder key token = true := by
  obtain ⟨expiry, he⟩ := isUnder_iff.1 hu
  exact isUnder_iff.2 ⟨expiry, h.live he⟩

end Passes

/-! ### What becomes of an addition -/

/-- What is added is there, unless it is over at once. -/
theorem keeps_add : (v.add lifetimes key token expire).Keeps lifetimes
    ⟨key, token, expire, v.clock⟩ := by
  by_cases h : Addition.IsOver lifetimes ⟨key, token, expire, v.clock⟩ v.clock
  · exact .inl h
  · refine .inr ?_
    rw [live_add_self, Option.filter_some, if_pos (Addition.isLive_entry_iff.2 h)]

namespace Keeps

theorem isUnder (h : v.Keeps lifetimes a) (hn : ¬ a.IsOver lifetimes v.clock) :
    v.isUnder a.key a.token = true :=
  isUnder_iff.2 ⟨_, h.resolve_left hn⟩

theorem passes (h : v.Keeps lifetimes a) (hp : v.Passes u) : u.Keeps lifetimes a := by
  by_cases ho : a.IsOver lifetimes u.clock
  · exact .inl ho
  · have hl : v.live a.key = some (a.entry lifetimes) :=
      h.resolve_left fun hv => ho (hv.mono hp.clock_le)
    refine .inr ?_
    rw [hp.live_eq, hl, Option.filter_some, if_pos (Addition.isLive_entry_iff.2 ho)]

/-- Nothing is added over it, since its key is not free before it is over. -/
theorem add (h : v.Keeps lifetimes a) (hfree : v.live key = none) :
    (v.add lifetimes key token expire).Keeps lifetimes a := by
  rcases h with ho | hl
  · exact .inl ho
  · have hk : a.key ≠ key := by
      rintro rfl
      rw [hl] at hfree
      cases hfree
    exact .inr ((live_add_of_ne hk).trans hl)

/-- It is not deleted by one who does not find its token under the key. -/
theorem erase (h : v.Keeps lifetimes a) (hu : v.isUnder key token = true)
    (hne : token ≠ a.token) : (v.erase key).Keeps lifetimes a := by
  rcases h with ho | hl
  · exact .inl ho
  · have hk : a.key ≠ key := by
      rintro rfl
      obtain ⟨expiry, he⟩ := isUnder_iff.1 hu
      rw [hl] at he
      injection he with he
      injection congrArg Stored.value he with ht
      exact hne ht.symm
    exact .inr ((live_erase_of_ne hk).trans hl)

end Keeps

end View

/-! ## The contract -/

section Contract

variable {σ β τ γ : Type} [Preorder τ] [DecidableLE τ] [Add τ]

/-- A cache that does what a cache does, as far as can be seen. -/
structure Faithful [Journal σ] (cache : CacheService σ) (view : σ → View τ γ)
    (lifetimes : Lifetimes τ) : Prop where
  add_free : ∀ key token expire s, lifetimes.admits expire → (view s).live key = none →
    ∃ answer t, cache.add key token expire s = (.ok answer, t) ∧ answer.isTruthy = true ∧
      view t = (view s).add lifetimes key token expire
  add_taken : ∀ key token expire s entry, lifetimes.admits expire →
    (view s).live key = some entry →
    ∃ answer t, cache.add key token expire s = (.ok answer, t) ∧ answer.isTruthy = false ∧
      view t = view s
  get : ∀ key s, ∃ t, cache.get key s = (.ok ((view s).value key), t) ∧ view t = view s
  delete : ∀ key s, ∃ t, cache.delete key s = (.ok (), t) ∧ view t = (view s).erase key
  drawToken : ∀ s, ∃ token t, cache.drawToken s = (.ok token, t) ∧ token ∉ (view s).drawn ∧
    view t = (view s).draw token
  record : ∀ entry s, view (Journal.record entry s) = view s

/-- Surroundings with such a cache, where a look at the clock and a sleep let time pass and do
nothing else. -/
structure FaithfulSurroundings [Journal σ] (env : Surroundings σ) (view : σ → View τ γ)
    (lifetimes : Lifetimes τ) : Prop extends Faithful env.toCacheService view lifetimes where
  now : ∀ s, (view s).Passes (view (env.now s).2)
  sleep : ∀ pause s, (view s).Passes (view (env.sleep pause s).2)

/-- The view with another rest. -/
def View.withRest {δ : Type} (v : View τ γ) (rest : δ) : View τ δ :=
  ⟨v.clock, v.live, v.drawn, v.additions, rest, v.isLive_of_live⟩

/-- What is seen of a world with a private part, which belongs to the rest. -/
def View.besides (view : σ → View τ γ) (w : σ × β) : View τ (γ × β) :=
  (view w.1).withRest ((view w.1).rest, w.2)

omit [Add τ] in
theorem View.besides_eq {view : σ → View τ γ} {s : σ} {v : View τ γ} (h : view s = v) (b : β) :
    View.besides view (s, b) = v.withRest (v.rest, b) := by
  rw [← h]
  rfl

omit [Add τ] in
theorem View.Passes.besides {view : σ → View τ γ} {s t : σ} (h : (view s).Passes (view t)) (b : β) :
    (View.besides view (s, b)).Passes (View.besides view (t, b)) where
  clock_le := h.clock_le
  drawn_subset := h.drawn_subset
  live_eq := h.live_eq
  additions_eq := h.additions_eq
  rest_eq := Prod.ext h.rest_eq rfl

variable [Journal σ] {env : Surroundings σ} {view : σ → View τ γ} {lifetimes : Lifetimes τ}

/-- The journal cannot be seen. -/
theorem Faithful.noted {cache : CacheService σ} (h : Faithful cache view lifetimes) {s t : σ}
    (hn : Noted s t) : view t = view s := hn.eq_of view h.record

/-- The surroundings do the same beside a private part, and leave that alone. -/
theorem FaithfulSurroundings.shared (h : FaithfulSurroundings env view lifetimes) :
    FaithfulSurroundings (env.shared : Surroundings (σ × β)) (View.besides view) lifetimes where
  add_free key token expire w hx hl := by
    obtain ⟨answer, t, ha, ht, hv⟩ := h.add_free key token expire w.1 hx hl
    exact ⟨answer, (t, w.2), Run.inShared_of ha w.2, ht, View.besides_eq hv w.2⟩
  add_taken key token expire w entry hx hl := by
    obtain ⟨answer, t, ha, ht, hv⟩ := h.add_taken key token expire w.1 entry hx hl
    exact ⟨answer, (t, w.2), Run.inShared_of ha w.2, ht, View.besides_eq hv w.2⟩
  get key w := by
    obtain ⟨t, hg, hv⟩ := h.get key w.1
    exact ⟨(t, w.2), Run.inShared_of hg w.2, View.besides_eq hv w.2⟩
  delete key w := by
    obtain ⟨t, hd, hv⟩ := h.delete key w.1
    exact ⟨(t, w.2), Run.inShared_of hd w.2, View.besides_eq hv w.2⟩
  drawToken w := by
    obtain ⟨token, t, hd, hn, hv⟩ := h.drawToken w.1
    exact ⟨token, (t, w.2), Run.inShared_of hd w.2, hn, View.besides_eq hv w.2⟩
  record entry w := View.besides_eq (h.record entry w.1) w.2
  now w := (h.now w.1).besides w.2
  sleep pause w := (h.sleep pause w.1).besides w.2

end Contract

end Lock

end TimedLock

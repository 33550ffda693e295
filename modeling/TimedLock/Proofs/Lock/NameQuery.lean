import TimedLock.Proofs.Lock.CachedOutcomes
import TimedLock.Proofs.Lock.CachedSteps

/-!
# Whether a lock name is taken

**Theorem (`queryAgrees_of_tokened`).** While there are only tokens under the keys of lock names
(`Tokened`), to ask whether a lock name is taken comes to the same as to try for it: the answer is
that it is taken exactly if a new mutex with that name cannot be obtained in no time, and that it is
free exactly if it can. It is taken if any mutex with that name says that it is held.

The query looks for a value that is not null, and the cache adds a key that has no live entry. These
are the same, since a token is not null. The query and the try are made at one instant: no time
passes while the try reads its clock, which never goes back (`Ticks`).
-/

namespace TimedLock.Lock

open Number

variable {σ β τ γ : Type} [Journal σ] [Preorder τ] [DecidableLE τ] [Add τ]

/-! ## Tokens under lock names -/

/-- What is under the keys of lock names are tokens. -/
def Tokened (v : View τ γ) : Prop :=
  ∀ name entry, v.live (cacheKey name) = some entry → ∃ token, entry.value = .text token

namespace Tokened

variable {v u : View τ γ} {lifetimes : Lifetimes τ} {key token : String} {expire : Value}

omit [Add τ] in
theorem passes (h : Tokened v) (hp : v.Passes u) : Tokened u :=
  fun name entry he => h name entry (hp.live he)

theorem add (h : Tokened v) : Tokened ((v.draw token).add lifetimes key token expire) := by
  intro name entry he
  rcases View.live_add_cases he with ⟨-, hvalue⟩ | hold
  · exact ⟨token, hvalue⟩
  · exact h name entry hold

omit [Add τ] in
theorem erase (h : Tokened v) : Tokened (v.erase key) :=
  fun name entry he => h name entry (View.live_of_live_erase he)

omit [Add τ] in
/-- Under a lock name there is a value just if there is an entry. -/
theorem isNull_value (h : Tokened v) (name : Value) :
    (v.value (cacheKey name)).isNull = (v.live (cacheKey name)).isNone := by
  unfold View.value
  cases hl : v.live (cacheKey name) with
  | none => rfl
  | some entry =>
    obtain ⟨token, hvalue⟩ := h name entry hl
    simp [hvalue, Value.isNull]

end Tokened

variable {env : Surroundings σ} {view : σ → View τ γ} {lifetimes : Lifetimes τ} {clock : σ → ℚ}
  {name time : Value} {unit : TimeUnit} {d : Design} {s : σ}

/-! ## The query -/

/-- A lock name is taken just if its key has a live entry. -/
theorem isNameLocked_apply (h : Faithful env.toCacheService view lifetimes)
    (ht : Tokened (view s)) (name : Value) :
    (isNameLocked env.toCacheService name s).1
      = .ok ((view s).live (cacheKey name)).isSome := by
  obtain ⟨t, hget, -⟩ := h.get (cacheKey name) s
  have hasked : (do let value ← env.get (cacheKey name)
                    pure !value.isNull : Run σ Bool) s
      = (.ok !((view s).value (cacheKey name)).isNull, t) := Run.bind_ok _ hget
  unfold isNameLocked
  rw [Run.recover_of_ok hasked, ht.isNull_value, Option.not_isNone]

/-! ## Trying in no time -/

/-- The numbers that are no time at all. -/
inductive NoTime : Value → Prop
  | int : NoTime (.int 0)
  | bool : NoTime (.bool false)
  | float : NoTime (.float zeroFloat)

/-- No time is no time in every unit, whichever number it is given as. -/
theorem NoTime.toSeconds (h : NoTime time) (unit : TimeUnit) :
    unit.toSeconds time = .ok (.float zeroFloat) := by
  cases h <;> cases unit <;> rfl

/-- To an acquisition only the seconds matter. -/
theorem acquire_congr {time' : Value} {unit' : TimeUnit} (lock : Cached σ)
    (h : unit.toSeconds time = unit'.toSeconds time') :
    lock.acquire env time unit = lock.acquire env time' unit' := by
  unfold Cached.acquire
  rw [h]

omit [Journal σ] in
/-- The clock goes on beside a private part. -/
theorem Ticks.shared (h : Ticks env clock) :
    Ticks (env.shared : Surroundings (σ × β)) fun w => clock w.1 where
  now w := by
    obtain ⟨x, t, hnow, hx, hle⟩ := h.now w.1
    exact ⟨x, (t, w.2), Run.inShared_of hnow w.2, hx, hle⟩
  drawToken w := by
    obtain ⟨token, t, hdraw, hle⟩ := h.drawToken w.1
    exact ⟨token, (t, w.2), Run.inShared_of hdraw w.2, hle⟩
  add key token expire w := h.add key token expire w.1
  patience := h.patience

/-- The cache tells whether a key was free when it was to be added. -/
theorem add_apply (h : Faithful env.toCacheService view lifetimes)
    (hx : lifetimes.admits d.expire) (key token : String) (s : σ) :
    ∃ answer t, env.add key token d.expire s = (.ok answer, t) ∧
      answer.isTruthy = ((view s).live key).isNone := by
  cases hl : (view s).live key with
  | none =>
    obtain ⟨answer, t, hadd, htruthy, -⟩ := h.add_free key token d.expire s hx hl
    exact ⟨answer, t, hadd, htruthy⟩
  | some entry =>
    obtain ⟨answer, t, hadd, hfalsy, -⟩ := h.add_taken key token d.expire s entry hx hl
    exact ⟨answer, t, hadd, hfalsy⟩

/-- A try tells what the cache told. -/
theorem Attempted.fst_of_ok {lock : Cached σ} {token : String} {answer : Value}
    {result : Except Fault Value × σ} (h : Attempted env lock token (.ok answer, s) result) :
    result.1 = .ok (.bool answer.isTruthy) := by
  cases h with
  | obtained hv => rw [hv]
  | taken hv => rw [hv]

/-- A mutex is obtained in no time just if its key is free. -/
theorem acquire_noTime (h : Faithful env.toCacheService view lifetimes) (hticks : Ticks env clock)
    (hx : lifetimes.admits d.expire) (htime : NoTime time) (unit : TimeUnit)
    (part : Slot β (Option String)) {w : σ × β} (hstill : view (env.now w.1).2 = view w.1) :
    ((d.mutex part).acquire env.shared time unit w).1
      = .ok (.bool ((view w.1).live d.key).isNone) := by
  have hseconds : unit.toSeconds time = TimeUnit.seconds.toSeconds (.int 0) := by
    rw [htime.toSeconds, toSeconds_zero]
  rw [acquire_congr (d.mutex part) hseconds]
  obtain ⟨token, t, hdraw, hattempted⟩ := acquire_at_once hticks.shared (d.mutex part) .seconds w
  obtain ⟨token', t', hdraw', -, ht'⟩ := h.drawToken (env.now w.1).2
  have hdrawn : (env.shared : Surroundings (σ × β)).drawToken (env.shared.now w).2
      = (.ok token', t', w.2) := Run.inShared_of hdraw' w.2
  obtain ⟨rfl, rfl⟩ : token = token' ∧ t = (t', w.2) := by
    rw [hdrawn] at hdraw
    simpa [eq_comm] using hdraw
  have hlive : (view t').live d.key = (view w.1).live d.key := by
    rw [ht', hstill]
    rfl
  obtain ⟨answer, u, hadd, htold⟩ := add_apply h hx d.key token t'
  have hadded : env.shared.add d.key token d.expire (t', w.2) = (.ok answer, u, w.2) :=
    Run.inShared_of hadd w.2
  change Attempted _ _ _ (env.shared.add d.key token d.expire (t', w.2)) _ at hattempted
  rw [hadded] at hattempted
  rw [hattempted.fst_of_ok, htold, hlive]

/-! ## Agreement -/

/-- In the world `s`, asking for a lock name agrees with trying for it: the answer is `taken`. -/
structure QueryAgrees (env : Surroundings σ) (lifetimes : Lifetimes τ) (name : Value) (s : σ)
    (taken : Bool) : Prop where
  query : (isNameLocked env.toCacheService name s).1 = .ok taken
  /-- A mutex with that name is obtained in no time just if the name is not taken. -/
  tries : ∀ {β : Type} (d : Design) (part : Slot β (Option String)) (own : β) (time : Value)
    (unit : TimeUnit), d.name = name → lifetimes.admits d.expire → NoTime time →
    ((d.mutex part).acquire env.shared time unit (s, own)).1 = .ok (.bool !taken)
  /-- What a mutex with that name holds is taken. -/
  held : ∀ {β : Type} (d : Design) (part : Slot β (Option String)) (own : β), d.name = name →
    ((d.mutex part).isHeld env.shared.toCacheService (s, own)).1 = .ok (.bool true) → taken = true

/-- **Asking for a lock name agrees with trying for it.** -/
theorem queryAgrees_of_tokened (h : Faithful env.toCacheService view lifetimes)
    (hticks : Ticks env clock) (hstill : view (env.now s).2 = view s) (ht : Tokened (view s))
    (name : Value) :
    QueryAgrees env lifetimes name s ((view s).live (cacheKey name)).isSome where
  query := isNameLocked_apply h ht name
  tries d part own time unit hname hx htime := by
    rw [acquire_noTime h hticks hx htime unit part hstill, Option.not_isSome, ← hname]
    rfl
  held d part own hname hheld := by
    obtain ⟨t, happly, -⟩ := isHeld_apply h d part (s, own)
    rw [happly] at hheld
    have hown : (view s).isOwn d.key (part.read own) = true := by simpa using hheld
    obtain ⟨token, -, hunder⟩ := View.isOwn_iff.1 hown
    obtain ⟨expiry, hlive⟩ := View.isUnder_iff.1 hunder
    have hkey : d.key = cacheKey name := congrArg cacheKey hname
    rw [← hkey, hlive]
    rfl

end TimedLock.Lock

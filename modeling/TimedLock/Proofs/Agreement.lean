import TimedLock.Holding
import TimedLock.Proofs.Run

/-!
# Computations that agree

Two computations over different worlds agree along a relation between the worlds when, from worlds
that are related, they end alike and leave related worlds behind (`Run.Agree`). A computation that is
put together from parts agrees with another one as soon as the parts do, so whatever is written for
locks in general does the same in related worlds.

This is how a world with a record of what happened is compared with the world without one: the
relation is that they are the same apart from the record.
-/

namespace TimedLock

namespace Run

variable {ω σ α γ : Type}

/-- From worlds that `R` relates, `x` and `y` end alike, in worlds that it relates. -/
def Agree (R : ω → σ → Prop) (x : Run ω α) (y : Run σ α) : Prop :=
  ∀ w s, R w s → (x w).1 = (y s).1 ∧ R (x w).2 (y s).2

/-- A relation between worlds that looks at the journal, if it does, in both of them alike. -/
def Journaled [Journal ω] [Journal σ] (R : ω → σ → Prop) : Prop :=
  ∀ entry w s, R w s → R (Journal.record entry w) (Journal.record entry s)

namespace Agree

variable {R : ω → σ → Prop} {x : Run ω α} {y : Run σ α}

theorem ofExcept (outcome : Except Fault α) :
    Agree R (.ofExcept outcome) (.ofExcept outcome) := fun _ _ h => ⟨rfl, h⟩

theorem pure (a : α) : Agree R (Pure.pure a : Run ω α) (Pure.pure a) := ofExcept (.ok a)

theorem fail (fault : Fault) : Agree R (.fail fault : Run ω α) (.fail fault) :=
  ofExcept (.error fault)

theorem bind {f : α → Run ω γ} {g : α → Run σ γ} (hx : Agree R x y)
    (hf : ∀ a, Agree R (f a) (g a)) : Agree R (x >>= f) (y >>= g) := by
  intro w s h
  obtain ⟨hout, hR⟩ := hx w s h
  rcases hxw : x w with ⟨outcome, w'⟩
  rcases hys : y s with ⟨outcome', s'⟩
  rw [hxw, hys] at hout hR
  obtain rfl : outcome = outcome' := hout
  cases outcome with
  | ok a =>
    rw [bind_ok f hxw, bind_ok g hys]
    exact hf a w' s' hR
  | error fault =>
    rw [bind_error f hxw, bind_error g hys]
    exact ⟨rfl, hR⟩

theorem attempt (hx : Agree R x y) : Agree R x.attempt y.attempt := fun w s h =>
  ⟨congrArg Except.ok (hx w s h).1, (hx w s h).2⟩

theorem look {f : ω → α} {g : σ → α} (h : ∀ w s, R w s → f w = g s) :
    Agree R (.look f) (.look g) := fun w s hR => ⟨congrArg Except.ok (h w s hR), hR⟩

theorem change {f : ω → ω} {g : σ → σ} (h : ∀ w s, R w s → R (f w) (g s)) :
    Agree R (.change f) (.change g) := fun w s hR => ⟨rfl, h w s hR⟩

theorem ite {c : Prop} [Decidable c] {x' : Run ω α} {y' : Run σ α} (h : Agree R x y)
    (h' : Agree R x' y') : Agree R (if c then x else x') (if c then y else y') := by
  by_cases hc : c
  · rw [if_pos hc, if_pos hc]
    exact h
  · rw [if_neg hc, if_neg hc]
    exact h'

theorem note [Journal ω] [Journal σ] (h : Journaled R) (severity : Severity) (topic : Topic)
    (message : String) : Agree R (.note severity topic message) (.note severity topic message) :=
  change (h _)

theorem noteFault [Journal ω] [Journal σ] (h : Journaled R) (severity : Severity) (topic : Topic)
    (message : String) :
    Agree R (.noteFault severity topic message) (.noteFault severity topic message) :=
  change (h _)

theorem recover {caught : Fault → Bool} {f : Fault → Run ω α} {g : Fault → Run σ α}
    (hx : Agree R x y) (hf : ∀ fault, Agree R (f fault) (g fault)) :
    Agree R (x.recover caught f) (y.recover caught g) := by
  refine hx.attempt.bind fun outcome => ?_
  cases outcome with
  | ok a => exact pure a
  | error fault => exact (hf fault).ite (fail fault)

theorem thenAlways {cleanUp : Run ω Unit} {cleanUp' : Run σ Unit} (hx : Agree R x y)
    (hc : Agree R cleanUp cleanUp') : Agree R (x.thenAlways cleanUp) (y.thenAlways cleanUp') :=
  hx.attempt.bind fun outcome => hc.bind fun _ => ofExcept outcome

theorem untilSome {step : Run ω (Option α)} {step' : Run σ (Option α)} (h : Agree R step step')
    (bound : Nat) : Agree R (Run.untilSome step bound) (Run.untilSome step' bound) := by
  induction bound with
  | zero => exact fail _
  | succ bound ih =>
    refine h.bind fun result => ?_
    cases result with
    | none => exact ih
    | some a => exact pure a

end Agree

/-- A world with a private part that is `s` but for that part. -/
def Shares {β : Type} (w : σ × β) (s : σ) : Prop := w.1 = s

theorem Shares.journaled {β : Type} [Journal σ] : Journaled (Shares (σ := σ) (β := β)) :=
  fun entry _ _ h => congrArg (Journal.record entry) h

theorem Agree.inShared {β : Type} (x : Run σ α) : Agree Shares (x.inShared (β := β)) x := by
  rintro ⟨_, b⟩ s rfl
  exact ⟨rfl, rfl⟩

theorem Agree.logged {ε : Type} (x : Run σ α) (entry : Except Fault α → ε) :
    Agree Shares (x.logged entry) x := by
  intro w s h
  rw [logged_apply, show w.1 = s from h]
  exact ⟨rfl, rfl⟩

/-- Worlds that `R` relates, with the same private part beside them. -/
def Beside {β : Type} (R : ω → σ → Prop) (w : ω × β) (s : σ × β) : Prop := R w.1 s.1 ∧ w.2 = s.2

section Beside

variable {β : Type} {R : ω → σ → Prop}

theorem Journaled.beside [Journal ω] [Journal σ] (h : Journaled R) :
    Journaled (Beside (β := β) R) := fun entry _ _ hR => ⟨h entry _ _ hR.1, hR.2⟩

theorem Agree.beside {x : Run ω α} {y : Run σ α} (h : Agree R x y) :
    Agree (Beside (β := β) R) x.inShared y.inShared := fun _ _ hR =>
  ⟨(h _ _ hR.1).1, (h _ _ hR.1).2, hR.2⟩

theorem Agree.withPrivate {start : β} {x : Run (ω × β) α} {y : Run (σ × β) α}
    (h : Agree (Beside R) x y) : Agree R (x.withPrivate start) (y.withPrivate start) :=
  fun _ _ hR => ⟨(h _ _ ⟨hR, rfl⟩).1, (h _ _ ⟨hR, rfl⟩).2.1⟩

end Beside

end Run

/-! ## Parts of the world -/

/-- Two parts that hold the same in related worlds. -/
structure Slot.Agree {ω σ α : Type} (R : ω → σ → Prop) (slot : Slot ω α) (slot' : Slot σ α) :
    Prop where
  read : ∀ w s, R w s → slot.read w = slot'.read s
  write : ∀ a w s, R w s → R (slot.write a w) (slot'.write a s)

namespace Slot.Agree

variable {ω σ α β : Type} {R : ω → σ → Prop} {slot : Slot ω α} {slot' : Slot σ α}

theorem get (h : Slot.Agree R slot slot') : Run.Agree R slot.get slot'.get := .look h.read

theorem set (h : Slot.Agree R slot slot') (a : α) : Run.Agree R (slot.set a) (slot'.set a) :=
  .change (h.write a)

theorem ofPrivate : Slot.Agree (Run.Beside (β := β) R) .ofPrivate .ofPrivate :=
  ⟨fun _ _ hR => hR.2, fun _ _ _ hR => ⟨hR.1, rfl⟩⟩

theorem inShared (slot : Slot σ α) : Slot.Agree (Run.Shares (β := β)) slot.inShared slot where
  read := by
    rintro w _ rfl
    rfl
  write := by
    rintro a w _ rfl
    rfl

end Slot.Agree

/-! ## Locks -/

variable {ω σ α : Type} {R : ω → σ → Prop}

/-- Two locks whose operations agree. -/
structure Handle.Agree (R : ω → σ → Prop) (lock : Handle ω) (lock' : Handle σ) : Prop where
  acquire : ∀ time unit, Run.Agree R (lock.acquire time unit) (lock'.acquire time unit)
  release : Run.Agree R lock.release lock'.release
  isHeld : Run.Agree R lock.isHeld lock'.isHeld
  describe : ∀ w s, R w s → lock.describe w = lock'.describe s

namespace Holding

variable [Journal ω] [Journal σ] {lock : Handle ω} {lock' : Handle σ} {work : Run ω α}
  {work' : Run σ α}

theorem acquireWithin_agree (hR : Run.Journaled R) (h : lock.Agree R lock') (time : Value)
    (unit : TimeUnit) :
    Run.Agree R (acquireWithin lock time unit) (acquireWithin lock' time unit) := by
  refine (h.acquire time unit).attempt.bind fun answer => ?_
  cases answer with
  | error fault => exact .fail _
  | ok obtained =>
    exact Run.Agree.ite (.pure ()) ((Run.Agree.note hR _ _ _).bind fun _ => .fail _)

theorem releaseHandle_agree (hR : Run.Journaled R) (h : lock.Agree R lock') :
    Run.Agree R (releaseHandle lock) (releaseHandle lock') := by
  refine h.release.attempt.bind fun answer => ?_
  cases answer with
  | ok _ => exact .pure ()
  | error fault =>
    exact Run.Agree.ite
      ((Run.Agree.look h.describe).bind fun shown => .noteFault hR _ _ _) (.fail fault)

theorem releaseIfHeld_agree (hR : Run.Journaled R) (h : lock.Agree R lock') :
    Run.Agree R (releaseIfHeld (some lock)) (releaseIfHeld (some lock')) := by
  refine h.isHeld.bind fun held => (Run.Agree.look h.describe).bind fun shown => .ite ?_ ?_
  · exact (Run.Agree.note hR _ _ _).bind fun _ => releaseHandle_agree hR h
  · exact .note hR _ _ _

theorem hold_agree (hR : Run.Journaled R) (h : lock.Agree R lock') (timeout : Value)
    (unit : Option TimeUnit) (hw : Run.Agree R work work') :
    Run.Agree R (hold (some lock) timeout unit work) (hold (some lock') timeout unit work') := by
  have hacquire : Run.Agree R (acquire lock timeout unit) (acquire lock' timeout unit) :=
    (Run.Agree.ofExcept _).bind fun resolved => acquireWithin_agree hR h _ _
  exact hacquire.bind fun _ => hw.thenAlways (releaseHandle_agree hR h)

/-- Locked calls agree if their locks, their work and their handlers do. -/
theorem callLocked_agree (hR : Run.Journaled R) (h : lock.Agree R lock') (timeout : Value)
    (unit : Option TimeUnit) (hw : Run.Agree R work work') {handler : Handler ω α}
    {handler' : Handler σ α} (hh : ∀ phase fault, Run.Agree R (handler phase fault)
      (handler' phase fault)) :
    Run.Agree R (callLocked (some lock) timeout unit work (some handler))
      (callLocked (some lock') timeout unit work' (some handler')) :=
  (Run.Agree.ofExcept _).bind fun _ =>
    (hold_agree hR h _ _ hw).recover fun fault => hh _ fault

/-- So do those without handlers. -/
theorem callLocked_none_agree (hR : Run.Journaled R) (h : lock.Agree R lock') (timeout : Value)
    (unit : Option TimeUnit) (hw : Run.Agree R work work') :
    Run.Agree R (callLocked (some lock) timeout unit work none)
      (callLocked (some lock') timeout unit work' none) :=
  (Run.Agree.ofExcept _).bind fun _ => hold_agree hR h _ _ hw

end Holding

end TimedLock

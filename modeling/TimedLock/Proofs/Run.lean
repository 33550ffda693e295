import TimedLock.Journal

/-!
# Computations, applied to a world

What the combinators of `Run` do from a given world, what operations do one after another (`Trail`),
and what an entry of the journal can change: nothing but the journal (`Noted`).
-/

namespace TimedLock

namespace Run

variable {σ β α γ : Type}

theorem attempt_bind_apply (x : Run σ α) (f : Except Fault α → Run σ γ) (s : σ) :
    (x.attempt >>= f) s = f (x s).1 (x s).2 := rfl

theorem look_bind_apply (read : σ → α) (f : α → Run σ γ) (s : σ) :
    (look read >>= f) s = f (read s) s := rfl

theorem note_bind_apply [Journal σ] (severity : Severity) (topic : Topic) (message : String)
    (f : Unit → Run σ γ) (s : σ) : (note severity topic message >>= f) s
      = f () (Journal.record ⟨severity, topic, message, false⟩ s) := rfl

theorem ofExcept_ok_bind (a : α) (f : α → Run σ γ) : (ofExcept (.ok a) >>= f) = f a := rfl

theorem inShared_apply (x : Run σ α) (w : σ × β) : x.inShared w = ((x w.1).1, (x w.1).2, w.2) :=
  rfl

theorem inShared_of {x : Run σ α} {outcome : Except Fault α} {s t : σ} (h : x s = (outcome, t))
    (b : β) : x.inShared (s, b) = (outcome, t, b) := by
  rw [inShared_apply, h]

theorem withPrivate_apply (start : β) (x : Run (σ × β) α) (s : σ) :
    x.withPrivate start s = ((x (s, start)).1, (x (s, start)).2.1) := rfl

theorem thenAlways_of_ok {x : Run σ α} {cleanUp : Run σ Unit} {s t u : σ}
    {outcome : Except Fault α} (hx : x s = (outcome, t)) (hc : cleanUp t = (.ok (), u)) :
    x.thenAlways cleanUp s = (outcome, u) := by
  unfold thenAlways
  rw [attempt_bind_apply, hx, bind_ok _ hc]
  rfl

theorem thenAlways_of_error {x : Run σ α} {cleanUp : Run σ Unit} {s t u : σ}
    {outcome : Except Fault α} {fault : Fault} (hx : x s = (outcome, t))
    (hc : cleanUp t = (.error fault, u)) : x.thenAlways cleanUp s = (.error fault, u) := by
  unfold thenAlways
  rw [attempt_bind_apply, hx, bind_error _ hc]

theorem recover_of_ok {x : Run σ α} {caught : Fault → Bool} {handler : Fault → Run σ α} {s t : σ}
    {a : α} (h : x s = (.ok a, t)) : x.recover caught handler s = (.ok a, t) := by
  unfold recover
  rw [attempt_bind_apply, h]
  rfl

theorem recover_of_caught {x : Run σ α} {caught : Fault → Bool} {handler : Fault → Run σ α}
    {s t : σ} {fault : Fault} (h : x s = (.error fault, t)) (hc : caught fault = true) :
    x.recover caught handler s = handler fault t := by
  unfold recover
  rw [attempt_bind_apply, h]
  simp only [hc, if_true]

theorem recover_of_not_caught {x : Run σ α} {caught : Fault → Bool} {handler : Fault → Run σ α}
    {s t : σ} {fault : Fault} (h : x s = (.error fault, t)) (hc : caught fault = false) :
    x.recover caught handler s = (.error fault, t) := by
  unfold recover
  rw [attempt_bind_apply, h]
  simp only [hc, Bool.false_eq_true, if_false]
  rfl

/-- Where the handler does nothing but fail, a fault stays a fault. -/
theorem recover_fail_of_error {x : Run σ α} (caught : Fault → Bool) (reword : Fault → Fault)
    {s t : σ} {fault : Fault} (h : x s = (.error fault, t)) :
    ∃ fault', x.recover caught (fun f => fail (reword f)) s = (.error fault', t) := by
  cases hc : caught fault with
  | true => exact ⟨reword fault, recover_of_caught h hc⟩
  | false => exact ⟨fault, recover_of_not_caught h hc⟩

theorem untilSome_of_some {step : Run σ (Option α)} {bound : Nat} {s t : σ} {a : α}
    (hb : 0 < bound) (h : step s = (.ok (some a), t)) : untilSome step bound s = (.ok a, t) := by
  cases bound with
  | zero => cases hb
  | succ bound => exact bind_ok _ h

theorem untilSome_of_error {step : Run σ (Option α)} {bound : Nat} {s t : σ} {fault : Fault}
    (hb : 0 < bound) (h : step s = (.error fault, t)) :
    untilSome step bound s = (.error fault, t) := by
  cases bound with
  | zero => cases hb
  | succ bound => exact bind_error _ h

/-- Runs `x`, whatever it gives. -/
def forget (x : Run σ α) : Run σ Unit := do
  let _ ← x
  pure ()

theorem forget_snd (x : Run σ α) (s : σ) : (x.forget s).2 = (x s).2 := by
  rcases hx : x s with ⟨outcome, t⟩
  cases outcome with
  | error fault => exact congrArg Prod.snd (bind_error _ hx)
  | ok a => exact congrArg Prod.snd (bind_ok _ hx)

/-- Runs `x`, and writes to a list how it ended. -/
def logged {ε : Type} (x : Run σ α) (entry : Except Fault α → ε) : Run (σ × List ε) α := do
  let outcome ← x.inShared.attempt
  change fun w => (w.1, w.2 ++ [entry outcome])
  ofExcept outcome

theorem logged_apply {ε : Type} (x : Run σ α) (entry : Except Fault α → ε) (w : σ × List ε) :
    x.logged entry w = ((x w.1).1, (x w.1).2, w.2 ++ [entry (x w.1).1]) := rfl

theorem logged_of {ε : Type} {x : Run σ α} {outcome : Except Fault α} {s t : σ}
    (h : x s = (outcome, t)) (entry : Except Fault α → ε) (log : List ε) :
    x.logged entry (s, log) = (outcome, t, log ++ [entry outcome]) := by
  rw [logged_apply, h]

end Run

/-! ## Parts of a world -/

namespace Slot

variable {σ α γ : Type}

theorem get_bind_apply (slot : Slot σ α) (f : α → Run σ γ) (s : σ) :
    (slot.get >>= f) s = f (slot.read s) s := rfl

theorem set_bind_apply (slot : Slot σ α) (a : α) (f : Unit → Run σ γ) (s : σ) :
    (slot.set a >>= f) s = f () (slot.write a s) := rfl

end Slot

/-! ## Operations one after another -/

/-- From one world, some operations, each given with how it ended, lead to another. -/
inductive Trail {κ σ α : Type} (perform : κ → Run σ α) :
    List (κ × Except Fault α) → σ → σ → Prop
  | refl (s : σ) : Trail perform [] s s
  | snoc {past : List (κ × Except Fault α)} {s t : σ} (op : κ) : Trail perform past s t →
      Trail perform (past ++ [(op, (perform op t).1)]) s (perform op t).2

namespace Trail

variable {κ σ α : Type} {perform : κ → Run σ α} {past : List (κ × Except Fault α)} {s t : σ}

/-- What each operation keeps, given what was done before it, holds after all of them. -/
theorem invariant {p : List (κ × Except Fault α) → σ → Prop} (h : Trail perform past s t)
    (hs : p [] s)
    (hstep : ∀ past t op, p past t → p (past ++ [(op, (perform op t).1)]) (perform op t).2) :
    p past t := by
  induction h with
  | refl s => exact hs
  | snoc op _ ih => exact hstep _ _ op (ih hs)

/-- What each operation keeps, all of them keep. -/
theorem keeps {p : σ → Prop} (h : Trail perform past s t) (hs : p s)
    (hstep : ∀ t op, p t → p (perform op t).2) : p t :=
  h.invariant (p := fun _ t => p t) hs fun _ t op => hstep t op

/-- The last operation, and the world that it was done in. -/
theorem exists_last {last : κ × Except Fault α} (h : Trail perform (past ++ [last]) s t) :
    ∃ u, Trail perform past s u ∧ t = (perform last.1 u).2 := by
  generalize hwhole : past ++ [last] = whole at h
  cases h with
  | refl => simp at hwhole
  | snoc op h =>
    obtain ⟨rfl, rfl⟩ := List.append_singleton_inj.1 hwhole
    exact ⟨_, h, rfl⟩

/-- The same operations lead to the same world. -/
theorem unique {t' : σ} (h : Trail perform past s t) (h' : Trail perform past s t') : t = t' := by
  induction h generalizing t' with
  | refl =>
    generalize hnone : [] = past at h'
    cases h' with
    | refl => rfl
    | snoc op _ => simp at hnone
  | snoc op _ ih =>
    obtain ⟨u, hu, rfl⟩ := h'.exists_last
    rw [ih hu]

end Trail

/-- A part of the private part of a world. -/
def Slot.inPrivate {σ β α : Type} (part : Slot β α) : Slot (σ × β) α where
  read w := part.read w.2
  write a w := (w.1, part.write a w.2)

/-- A part of the world beside which there is a private part. -/
def Slot.inShared {σ α β : Type} (slot : Slot σ α) : Slot (σ × β) α where
  read w := slot.read w.1
  write a w := (slot.write a w.1, w.2)

/-! ## The journal -/

/-- A world that is nothing but its journal. -/
instance : Journal (List Entry) where
  record entry entries := entries ++ [entry]

/-- A world that is another one, with at most one more entry in its journal. -/
def Noted {σ : Type} [Journal σ] (s t : σ) : Prop := t = s ∨ ∃ entry, t = Journal.record entry s

namespace Noted

variable {σ β : Type} [Journal σ]

theorem refl (s : σ) : Noted s s := .inl rfl

theorem record (entry : Entry) (s : σ) : Noted s (Journal.record entry s) := .inr ⟨entry, rfl⟩

/-- What no entry of the journal changes is the same in a world with one more. -/
theorem eq_of {δ : Type} {s t : σ} (h : Noted s t) (part : σ → δ)
    (hpart : ∀ entry s, part (Journal.record entry s) = part s) : part t = part s := by
  rcases h with rfl | ⟨entry, rfl⟩
  · rfl
  · exact hpart entry s

/-- The journal is no part of what is private. -/
theorem private_eq {w v : σ × β} (h : Noted w v) : v.2 = w.2 := h.eq_of Prod.snd fun _ _ => rfl

theorem shared {w v : σ × β} (h : Noted w v) : Noted w.1 v.1 := by
  rcases h with rfl | ⟨entry, rfl⟩
  · exact refl _
  · exact record entry w.1

end Noted

end TimedLock

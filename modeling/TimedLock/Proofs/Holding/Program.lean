import TimedLock.Proofs.Holding.Stages

/-!
# Programs of locked calls

A program takes locks through `hold`, `useLock` and `withLock` only, nested and one after the other
in any way, and does whatever else it likes in between. Its locks are arbitrary handles.

To speak about what a run did, each call is numbered as it begins, and what it does that others can
see is written down in a ledger: how its lock answered, when its work and its handler began and
ended. The ledger is private, so nothing that the program does depends on it.
-/

namespace TimedLock.Holding

/-! ## The ledger -/

/-- What a call does that others can see. -/
inductive Deed
  /-- The lock was asked, and this is its answer. -/
  | asked (call : Nat) (answer : Except Fault Value)
  | workBegan (call : Nat)
  | workEnded (call : Nat)
  /-- The lock was released, and this is its answer. -/
  | gaveBack (call : Nat) (answer : Except Fault Value)
  | handlerBegan (call : Nat) (phase : Phase) (fault : Fault)
  | handlerEnded (call : Nat)

/-- The number of the call that a deed belongs to. -/
def Deed.call : Deed → Nat
  | .asked call _ | .workBegan call | .workEnded call | .gaveBack call _
  | .handlerBegan call _ _ | .handlerEnded call => call

/-- What has been done so far. -/
structure Ledger where
  /-- The number of the next call. -/
  next : Nat
  /-- The deeds in order. -/
  deeds : List Deed

/-- The ledger in which nothing was written. -/
def Ledger.blank : Ledger := ⟨0, []⟩

variable {σ α : Type}

/-- Gives a call its number. -/
def number : Run (σ × Ledger) Nat := fun w =>
  (.ok w.2.next, w.1, { w.2 with next := w.2.next + 1 })

/-- Writes a deed down. -/
def write (deed : Deed) : Run (σ × Ledger) Unit :=
  .change fun w => (w.1, { w.2 with deeds := w.2.deeds ++ [deed] })

/-- Writes down when a computation begins and when it ends. -/
def between (first last : Deed) (x : Run (σ × Ledger) α) : Run (σ × Ledger) α := do
  write first
  x.thenAlways (write last)

/-- A lock whose answers to a call are written down. -/
def watched (lock : Handle σ) (call : Nat) : Handle (σ × Ledger) where
  acquire time unit := do
    let answer ← (lock.acquire time unit).inShared.attempt
    write (.asked call answer)
    .ofExcept answer
  release := do
    let answer ← lock.release.inShared.attempt
    write (.gaveBack call answer)
    .ofExcept answer
  isHeld := lock.isHeld.inShared
  describe w := lock.describe w.1

/-! ## Programs -/

/-- A program of locked calls. After each part, how that part ended decides how it goes on. -/
inductive Program (σ : Type)
  | ends (outcome : Except Fault Value)
  /-- Does anything else. -/
  | does (act : Run σ Value) (next : Except Fault Value → Program σ)
  | holds (lock : Handle σ) (timeout : Value) (unit : Option TimeUnit) (body : Program σ)
      (next : Except Fault Value → Program σ)
  /-- Runs an action under a lock; `keeps` says that its result is wanted. -/
  | calls (keeps : Bool) (lock : Handle σ) (timeout : Value) (unit : Option TimeUnit)
      (action : Program σ) (next : Except Fault Value → Program σ)
  /-- The same with an error handler. -/
  | callsWith (keeps : Bool) (lock : Handle σ) (timeout : Value) (unit : Option TimeUnit)
      (action : Program σ) (handler : Phase → Fault → Program σ)
      (next : Except Fault Value → Program σ)

variable [Journal σ]

/-- A locked call, for its result or for its effect alone. -/
def lockedCall (keeps : Bool) (lock : Handle σ) (timeout : Value) (unit : Option TimeUnit)
    (work : Run σ Value) (handler : Option (Handler σ Value)) : Run σ Value :=
  if keeps then withLock (some lock) timeout unit work handler
  else do
    useLock (some lock) timeout unit work handler
    pure .null

/-- The world after a locked call does not depend on whether its result is wanted. -/
theorem lockedCall_snd (keeps : Bool) (lock : Handle σ) (timeout : Value) (unit : Option TimeUnit)
    (work : Run σ Value) (handler : Option (Handler σ Value)) (s : σ) :
    (lockedCall keeps lock timeout unit work handler s).2
      = (callLocked (some lock) timeout unit work handler s).2 := by
  cases keeps with
  | true => rfl
  | false =>
    rcases h : callLocked (some lock) timeout unit work handler s with ⟨_ | _, t⟩
    · have hu : useLock (some lock) timeout unit work handler s = (.error _, t) :=
        Run.bind_error _ h
      unfold lockedCall
      rw [if_neg Bool.false_ne_true, Run.bind_error _ hu]
    · have hu : useLock (some lock) timeout unit work handler s = (.ok (), t) := Run.bind_ok _ h
      unfold lockedCall
      rw [if_neg Bool.false_ne_true, Run.bind_ok _ hu]
      rfl

/-- The work of a call, between the two deeds that frame it. -/
def framedWork (call : Nat) (work : Run (σ × Ledger) Value) : Run (σ × Ledger) Value :=
  between (.workBegan call) (.workEnded call) work

/-- The handler of a call, between the two deeds that frame it. -/
def framedHandler (call : Nat) (handler : Handler (σ × Ledger) Value) :
    Handler (σ × Ledger) Value := fun phase fault =>
  between (.handlerBegan call phase fault) (.handlerEnded call) (handler phase fault)

/-- Runs a program, and keeps the ledger. -/
def Program.run : Program σ → Run (σ × Ledger) Value
  | .ends outcome => .ofExcept outcome
  | .does act next => do
    let outcome ← act.inShared.attempt
    (next outcome).run
  | .holds lock timeout unit body next => do
    let call ← number
    let outcome ←
      (hold (some (watched lock call)) timeout unit (framedWork call body.run)).attempt
    (next outcome).run
  | .calls keeps lock timeout unit action next => do
    let call ← number
    let outcome ←
      (lockedCall keeps (watched lock call) timeout unit (framedWork call action.run) none).attempt
    (next outcome).run
  | .callsWith keeps lock timeout unit action handler next => do
    let call ← number
    let outcome ←
      (lockedCall keeps (watched lock call) timeout unit (framedWork call action.run)
        (some (framedHandler call fun phase fault => (handler phase fault).run))).attempt
    (next outcome).run

end TimedLock.Holding

import TimedLock.Proofs.Lock.MutualExclusion
import TimedLock.Task.Guard

/-!
# Programs of guarded calls

A program calls guarded tasks, one after another and one inside the body of another, to any depth;
in between it does anything that leaves the keys to the mutexes of other owners. How each part ended
decides how the program goes on, so it can branch, loop and raise faults as it likes.

What a run did is written into a diary, which is private, so nothing depends on it. When a body
starts, the diary gets the name of its call, what its call added, which calls are running at that
time and what added them, and the clock (`Start`). When a call ends whose body ran, it gets what the
cache was like before the call gave its key back, and after (`Ending`).
-/

namespace TimedLock.Task

open Lock

/-! ## The diary -/

/-- The start of a body. -/
structure Start (τ : Type) where
  /-- The lock name of the call. -/
  name : Except Fault Value
  /-- For how long its key is added. -/
  expire : Value
  /-- What was added since the call began. -/
  own : List (Addition τ)
  /-- What the calls added that this call is made inside of: their bodies have not ended. -/
  running : List (Addition τ)
  clock : τ

/-- The end of a call whose body ran. -/
structure Ending (τ γ : Type) [LE τ] [DecidableLE τ] where
  /-- What the call added. -/
  own : List (Addition τ)
  /-- The cache as the body ended. -/
  before : View τ γ
  /-- The cache as the call ended. -/
  after : View τ γ

/-- What happened so far. -/
structure Diary (τ γ : Type) [LE τ] [DecidableLE τ] where
  starts : List (Start τ)
  endings : List (Ending τ γ)
  /-- What the last call added whose body has ended, and the cache at that time, until the call
  ends. -/
  finished : Option (List (Addition τ) × View τ γ)

namespace Diary

variable {τ γ : Type} [LE τ] [DecidableLE τ]

/-- The diary in which nothing happened. -/
def blank : Diary τ γ := ⟨[], [], none⟩

/-- A call begins. -/
def opened (diary : Diary τ γ) : Diary τ γ := { diary with finished := none }

/-- A body starts. -/
def started (diary : Diary τ γ) (start : Start τ) : Diary τ γ :=
  { diary with starts := diary.starts ++ [start] }

/-- A body has ended. -/
def finishing (diary : Diary τ γ) (own : List (Addition τ)) (before : View τ γ) : Diary τ γ :=
  { diary with finished := some (own, before) }

/-- A call ends. -/
def closed (diary : Diary τ γ) (after : View τ γ) : Diary τ γ :=
  match diary.finished with
  | none => diary
  | some (own, before) =>
    { diary with endings := diary.endings ++ [⟨own, before, after⟩], finished := none }

end Diary

/-- What was added since there were `mark` additions. -/
def since {τ γ : Type} [LE τ] [DecidableLE τ] (mark : Nat) (v : View τ γ) : List (Addition τ) :=
  v.additions.take (v.additions.length - mark)

/-! ## Programs -/

section Programs

variable {σ ι τ γ : Type} [DecidableEq ι] [Journal σ] [Preorder τ] [DecidableLE τ] [Add τ]

/-- Anything that leaves the keys to the mutexes of other owners: all it does to the cache and to
their tokens are moves of theirs, waits included. -/
structure Doing (env : Surroundings σ) (view : σ → View τ γ) (designs : ι → Design) where
  act : Run (σ × (ι → Option String)) Value
  isRun : ∀ w, ∃ moves, Runs env view designs moves w (act w).2

/-- A program of guarded calls. -/
inductive Conduct (env : Surroundings σ) (view : σ → View τ γ) (lifetimes : Lifetimes τ)
    (designs : ι → Design)
  | ends (outcome : Except Fault Value)
  | does (doing : Doing env view designs)
      (next : Except Fault Value → Conduct env view lifetimes designs)
  /-- Calls a guarded task. `fallback` is the expiry that the settings give. -/
  | calls (guard : Guard) (fallback : Value)
      (admitted : lifetimes.admits (guard.expire.orElse fallback)) (args : Arguments)
      (body : Conduct env view lifetimes designs)
      (next : Except Fault Value → Conduct env view lifetimes designs)

/-- The world of a program: the tokens of the other owners and the diary are beside it. -/
abbrev Scene (σ ι τ γ : Type) [LE τ] [DecidableLE τ] : Type :=
  (σ × (ι → Option String)) × Diary τ γ

/-- What is seen of the cache in a scene. -/
def seen (view : σ → View τ γ) (w : Scene σ ι τ γ) : View τ γ := view w.1.1

/-- A body, from its start to its end, as the diary tells it. -/
def toldBody (view : σ → View τ γ) (name : Except Fault Value) (expire : Value) (mark : Nat)
    (running : List (Addition τ)) (body : List (Addition τ) → Run (Scene σ ι τ γ) Value) :
    Run (Scene σ ι τ γ) Value := do
  let own ← .look fun w => since mark (seen view w)
  .change fun w => (w.1, w.2.started ⟨name, expire, own, running, (seen view w).clock⟩)
  (body (own ++ running)).thenAlways
    (.change fun w => (w.1, w.2.finishing own (seen view w)))

/-- A guarded call, from its beginning to its end, as the diary tells it. -/
def toldCall (env : Surroundings σ) (view : σ → View τ γ) (guard : Guard) (fallback : Value)
    (args : Arguments) (running : List (Addition τ))
    (body : List (Addition τ) → Run (Scene σ ι τ γ) Value) : Run (Scene σ ι τ γ) Value := do
  .change fun w => (w.1, w.2.opened)
  let mark ← .look fun w => (seen view w).additions.length
  let name ← .look fun w => (guard.lockName args w).1
  let outcome ← (guard.call env.shared.shared fallback args fun _ =>
    toldBody view name (guard.expire.orElse fallback) mark running body).attempt
  .change fun w => (w.1, w.2.closed (seen view w))
  .ofExcept outcome

/-- Runs a program inside the calls that are running. -/
def Conduct.run {env : Surroundings σ} {view : σ → View τ γ} {lifetimes : Lifetimes τ}
    {designs : ι → Design} (running : List (Addition τ)) :
    Conduct env view lifetimes designs → Run (Scene σ ι τ γ) Value
  | .ends outcome => .ofExcept outcome
  | .does doing next => do
    let outcome ← doing.act.inShared.attempt
    (next outcome).run running
  | .calls guard fallback _ args body next => do
    let outcome ←
      (toldCall env view guard fallback args running fun inner => body.run inner).attempt
    (next outcome).run running

end Programs

end TimedLock.Task

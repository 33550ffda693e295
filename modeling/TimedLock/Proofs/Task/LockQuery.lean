import TimedLock.Proofs.Lock.CachedWait
import TimedLock.Proofs.Lock.NameQuery
import TimedLock.Proofs.Task.NoDuplicateRun
import TimedLock.Proofs.Task.Transparency

/-!
# Asking for lock names while tasks run

**Theorem (`query_agrees`).** Let guarded tasks call each other to any depth, while the mutexes of
other owners try, wait, release and ask, and time passes. In every world that such a program visits,
before and after each instruction and inside of the bodies, asking for a lock name agrees with
trying for it.

The invariant is that there are only tokens under lock names (`Tokened`). A move of a mutex keeps
it, since all that it does to a key is to add a token or to delete it; and so does a guarded call
whose body does. The worlds are collected in a private part while the program runs
(`Conduct.tour`), which no operation of the cache can see or change.
-/

namespace TimedLock.Task

open Lock

variable {σ ι τ γ : Type} [DecidableEq ι] [Journal σ] [Preorder τ] [DecidableLE τ] [Add τ]
  {env : Surroundings σ} {view : σ → View τ γ} {lifetimes : Lifetimes τ} {designs : ι → Design}

/-! ## What mutexes do -/

/-- A computation that comes to a run of moves. -/
def IsRun {α : Type} (env : Surroundings σ) (view : σ → View τ γ) (designs : ι → Design)
    (x : Run (σ × (ι → Option String)) α) : Prop :=
  ∀ w, ∃ moves, Runs env view designs moves w (x w).2

section IsRun

variable {α δ : Type} {x : Run (σ × (ι → Option String)) α}

omit [Add τ] in
theorem runs_append {moves moves' : List (Move ι)} {u v w : σ × (ι → Option String)}
    (h : Runs env view designs moves u v) (h' : Runs env view designs moves' v w) :
    Runs env view designs (moves ++ moves') u w := by
  induction h with
  | done => exact h'
  | step hs _ ih => exact .step hs (ih h')

namespace IsRun

omit [Add τ]

theorem of_waits (h : Waits view x) : IsRun env view designs x := by
  intro w
  obtain ⟨outcome, s, hx, hp⟩ := h w
  rw [hx]
  exact ⟨[.wait], .step (.wait hp) (.done _)⟩

theorem bind {f : α → Run (σ × (ι → Option String)) δ} (hx : IsRun env view designs x)
    (hf : ∀ a, IsRun env view designs (f a)) : IsRun env view designs (x >>= f) := by
  intro w
  obtain ⟨moves, hmoves⟩ := hx w
  rcases hxw : x w with ⟨outcome, v⟩
  rw [hxw] at hmoves
  cases outcome with
  | error fault =>
    rw [Run.bind_error f hxw]
    exact ⟨moves, hmoves⟩
  | ok a =>
    rw [Run.bind_ok f hxw]
    obtain ⟨moves', hmoves'⟩ := hf a v
    exact ⟨moves ++ moves', runs_append hmoves hmoves'⟩

theorem ofExcept (outcome : Except Fault α) : IsRun env view designs (.ofExcept outcome) :=
  .of_waits (waits_ofExcept outcome)

theorem ite {c : Prop} [Decidable c] {y : Run (σ × (ι → Option String)) α}
    (hx : IsRun env view designs x) (hy : IsRun env view designs y) :
    IsRun env view designs (if c then x else y) := by
  by_cases hc : c
  · rw [if_pos hc]
    exact hx
  · rw [if_neg hc]
    exact hy

theorem untilSome {step : Run (σ × (ι → Option String)) (Option α)}
    (h : IsRun env view designs step) (bound : Nat) :
    IsRun env view designs (Run.untilSome step bound) := by
  induction bound with
  | zero => exact ofExcept _
  | succ bound ih =>
    refine h.bind fun result => ?_
    cases result with
    | none => exact ih
    | some a => exact ofExcept _

end IsRun

/-- An acquisition, however long it waits, is a run of tries with time passing between them. -/
theorem acquire_isRun (h : FaithfulSurroundings env view lifetimes) (i : ι) (time : Value)
    (unit : TimeUnit) :
    IsRun env view designs ((mutexOf designs i).acquire env.shared time unit) := by
  have hnow : IsRun env view designs (env.shared : Surroundings (σ × (ι → Option String))).now :=
    .of_waits (waits_now h)
  have hattempt :
      IsRun env view designs ((mutexOf designs i).attempt env.shared.toCacheService) :=
    fun w => ⟨[.attempt i], .step (.attempt i w) (.done _)⟩
  refine hnow.bind fun start => .bind (.ofExcept _) fun seconds =>
    .bind (.ofExcept _) fun deadline => ?_
  refine .bind (.untilSome ?step _) fun obtained => ?answer
  case step =>
    refine hattempt.bind fun obtained => .ite (.ofExcept _) (hnow.bind fun now => ?_)
    refine .ite (.ofExcept _) (.bind (.ofExcept _) fun pause => ?_)
    exact .bind (.of_waits (waits_sleep h pause)) fun _ => .ofExcept _
  case answer =>
    cases obtained with
    | true => exact .ofExcept _
    | false => exact .bind (.of_waits (waits_note h _ _ _)) fun _ => .ofExcept _

end IsRun

/-- The operations of a mutex, as instructions of a program. -/
def acquiring (h : FaithfulSurroundings env view lifetimes) (i : ι) (time : Value)
    (unit : TimeUnit) : Doing env view designs where
  act := (mutexOf designs i).acquire env.shared time unit
  isRun := acquire_isRun h i time unit

def releasing (i : ι) : Doing env view designs where
  act := (mutexOf designs i).release env.shared.toCacheService
  isRun w := ⟨[.release i], .step (.release i w) (.done _)⟩

def asking (i : ι) : Doing env view designs where
  act := (mutexOf designs i).isHeld env.shared.toCacheService
  isRun w := ⟨[.asks i], .step (.asks i w) (.done _)⟩

/-! ## The worlds that a program visits -/

/-- A world, with the tokens of the mutexes. -/
abbrev Place (σ ι : Type) : Type := σ × (ι → Option String)

/-- Writes down where the program is. -/
def visit : Run (Place σ ι × List (Place σ ι)) Unit := .change fun w => (w.1, w.2 ++ [w.1])

/-- Runs a program and writes down where it is before each instruction, and at its end. -/
def Conduct.tour : Conduct env view lifetimes designs →
    Run (Place σ ι × List (Place σ ι)) Value
  | .ends outcome => do
    visit
    .ofExcept outcome
  | .does doing next => do
    visit
    let outcome ← doing.act.inShared.attempt
    (next outcome).tour
  | .calls guard fallback _ args body next => do
    visit
    let outcome ← (guard.call env.shared.shared fallback args fun _ => body.tour).attempt
    (next outcome).tour

/-- There are only tokens under lock names, here and wherever the program has been. -/
structure Clear (view : σ → View τ γ) (w : Place σ ι × List (Place σ ι)) : Prop where
  here : Tokened (view w.1.1)
  before : ∀ v ∈ w.2, Tokened (view v.1)

theorem tokened_runs (h : Faithful env.toCacheService view lifetimes)
    (hx : ∀ i, lifetimes.admits (designs i).expire) {moves : List (Move ι)} {v w : Place σ ι}
    (hr : Runs env view designs moves v w) (ht : Tokened (view v.1)) : Tokened (view w.1) := by
  induction hr with
  | done => exact ht
  | step hs _ ih =>
    refine ih ?_
    cases effect_of_step h hx hs with
    | passes hp => exact ht.passes hp
    | obtains _ _ hv =>
      rw [hv]
      exact ht.add
    | givesBack _ _ hv =>
      rw [hv]
      exact ht.erase

/-- All that a guarded call sees: the cache, and the rest, with what was written down. -/
def placeView (view : σ → View τ γ) :
    Place σ ι × List (Place σ ι) → View τ ((γ × (ι → Option String)) × List (Place σ ι)) :=
  View.besides (View.besides view)

namespace Clear

variable {w t u : Place σ ι × List (Place σ ι)}

omit [DecidableEq ι] [Journal σ] [Add τ] in
theorem visit (hw : Clear view w) : Clear view (visit w).2 where
  here := hw.here
  before v hv := by
    rcases List.mem_append.1 hv with hv | hv
    · exact hw.before v hv
    · rw [List.mem_singleton.1 hv]
      exact hw.here

omit [DecidableEq ι] [Journal σ] [Add τ] in
/-- Where the rest is the same, so is what was written down. -/
theorem of_rest (hw : Clear view w) (hrest : (placeView view t).rest = (placeView view w).rest)
    (ht : Tokened (placeView view t)) : Clear view t where
  here := ht
  before v hv := by
    have hlog : t.2 = w.2 :=
      congrArg (fun r : (γ × (ι → Option String)) × List (Place σ ι) => r.2) hrest
    rw [hlog] at hv
    exact hw.before v hv

omit [DecidableEq ι] [Journal σ] [Add τ] in
theorem passes (hw : Clear view w) (hp : (placeView view w).Passes (placeView view t)) :
    Clear view t :=
  hw.of_rest hp.rest_eq (Tokened.passes hw.here hp)

omit [DecidableEq ι] [Journal σ] in
theorem add (hw : Clear view w) {v : View τ ((γ × (ι → Option String)) × List (Place σ ι))}
    {key token : String} {expire : Value} (hp : (placeView view w).Passes v)
    (hu : placeView view u = (v.draw token).add lifetimes key token expire) : Clear view u := by
  have hbefore : Tokened v := Tokened.passes hw.here hp
  refine hw.of_rest ?_ ?_
  · rw [hu]
    exact hp.rest_eq
  · rw [hu]
    exact hbefore.add

omit [DecidableEq ι] [Journal σ] [Add τ] in
theorem settle (hw : Clear view w) {a : Addition τ}
    (ht : placeView view t = Guard.settle (placeView view w) a) : Clear view t := by
  have hbefore : Tokened (placeView view w) := hw.here
  refine hw.of_rest ?_ ?_
  · rw [ht]
    exact rest_settle _ a
  · rw [ht]
    unfold Guard.settle
    by_cases hown : (placeView view w).isUnder a.key a.token = true
    · rw [if_pos hown]
      exact hbefore.erase
    · rw [if_neg hown]
      exact hbefore

end Clear

omit [DecidableEq ι] in
/-- A guarded call leaves only tokens under lock names, if its body does. -/
theorem call_clear (h : FaithfulSurroundings env view lifetimes) (guard : Guard) {fallback : Value}
    (hx : lifetimes.admits (guard.expire.orElse fallback)) (args : Arguments)
    {body : Run (Place σ ι × List (Place σ ι)) Value}
    (hbody : ∀ w, Clear view w → Clear view (body w).2) {w : Place σ ι × List (Place σ ι)}
    (hw : Clear view w) :
    Clear view (guard.call env.shared.shared fallback args (fun _ => body) w).2 := by
  obtain ⟨outcome, t, ht, hcases⟩ :=
    Guard.call_cases h.shared.shared guard hx args (fun _ => body) w
  rw [ht]
  rcases hcases with hp | ⟨name, -, hcame⟩
  · exact hw.passes hp
  cases hcame with
  | skipped hp => exact hw.passes hp
  | ran hp _ _ hadd _ hsettle => exact (hbody _ (hw.add hp hadd)).settle hsettle

/-- **A program leaves only tokens under lock names**, wherever it goes. -/
theorem Conduct.tour_clear (h : FaithfulSurroundings env view lifetimes)
    (hx : ∀ i, lifetimes.admits (designs i).expire) (p : Conduct env view lifetimes designs) :
    ∀ w, Clear view w → Clear view (p.tour w).2 := by
  induction p with
  | ends outcome => exact fun _ hw => hw.visit
  | does doing next ih =>
    intro w hw
    obtain ⟨moves, hmoves⟩ := doing.isRun w.1
    have hdone : Clear view (doing.act.inShared (visit w).2).2 :=
      ⟨tokened_runs h.toFaithful hx hmoves hw.here, hw.visit.before⟩
    exact ih _ _ hdone
  | calls guard fallback admitted args body next ihb ihn =>
    intro w hw
    exact ihn _ _ (call_clear h guard admitted args ihb hw.visit)

/-- **Asking for a lock name agrees with trying for it**, in every world that a program visits,
where no time passes while the try reads its clock. -/
theorem query_agrees {clock : σ → ℚ} (h : FaithfulSurroundings env view lifetimes)
    (hticks : Ticks env clock) (hx : ∀ i, lifetimes.admits (designs i).expire)
    (p : Conduct env view lifetimes designs) {w : Place σ ι} (hw : Tokened (view w.1)) :
    ∀ v ∈ (p.tour (w, [])).2.2, view (env.now v.1).2 = view v.1 →
      ∀ name, ∃ taken, QueryAgrees env lifetimes name v.1 taken := by
  have hclear := p.tour_clear h hx (w, []) ⟨hw, by rintro v ⟨⟩⟩
  intro v hv hstill name
  exact ⟨_, queryAgrees_of_tokened h.toFaithful hticks hstill (hclear.before v hv) name⟩

/-! ## Asking for a report -/

/-- One mutex, with the name of the report. -/
def otherReport : Unit → Design := fun _ => ⟨.text "report", .int 60, .int 1⟩

/-- Nothing is done for some seconds. -/
def pausing (seconds : Nat) : Doing Memory.surroundings Memory.view otherReport where
  act := do
    .change fun w => (w.1.after seconds, w.2)
    pure .null
  isRun w := ⟨[.wait], .step (.wait (Memory.passes_after w.1 seconds)) (.done _)⟩

theorem report_admitted : wholeSeconds.admits (report.expire.orElse .null) := .inr ⟨60, rfl⟩

/-- The mutex is obtained and given back much later. In between, the report is called twice: at
once, and when the key has expired. -/
def heldReport : Conduct Memory.surroundings Memory.view wholeSeconds otherReport :=
  .does (acquiring Memory.faithful () (.int 0) .seconds) fun _ =>
    .does (asking ()) fun _ =>
      .calls report .null report_admitted ⟨[], []⟩ (.ends (.ok .null)) fun _ =>
        .does (pausing 60) fun _ =>
          .calls report .null report_admitted ⟨[], []⟩ (.ends (.ok .null)) fun _ =>
            .does (releasing ()) .ends

/-- The worlds that this visits. -/
def heldReportPlaces : List (Place Memory Unit) :=
  (heldReport.tour ((.fresh, fun _ => none), [])).2.2

/-- The report is taken while the mutex is held and while the body runs. It is free before, after
and in between, the instant at which the key expires included. -/
theorem heldReport_query_agrees :
    (heldReportPlaces.map fun v =>
        (isNameLocked Memory.surroundings.toCacheService (.text "report") v.1).1.toOption)
      = [some false, some true, some true, some true, some false, some true, some false,
        some false] ∧
      ∀ v ∈ heldReportPlaces, ∀ name, ∃ taken,
        QueryAgrees Memory.surroundings wholeSeconds name v.1 taken := by
  have hfresh : Tokened (Memory.view .fresh) := by
    intro name entry he
    cases he
  refine ⟨by decide +kernel, fun v hv name => ?_⟩
  exact query_agrees Memory.faithful ticks_memory (fun _ => .inr ⟨60, rfl⟩) heldReport hfresh v hv
    rfl name

end TimedLock.Task

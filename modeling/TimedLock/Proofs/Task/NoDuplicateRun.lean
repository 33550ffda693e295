import TimedLock.Proofs.Task.Conduct
import TimedLock.Proofs.Task.RunningCalls

/-!
# No task runs twice before its lock expires

**Theorem (`no_duplicate_run`).** In every run of a program of guarded calls: when a body starts
while the body of an earlier call with the same lock name is still running, the key of that earlier
call was added for a time, and that time is over. And when a call ends whose body ran, its token is
under no key, while whatever another owner had put under a key is still there.

The proof carries the invariant `Steady` of the running calls along a run, by induction on the
program. A call that begins pushes what it added, and since its key was free, an earlier call with
that key can only be one that is over (`Start.alone_of_free`). A call that ends pops it again, and
settles its key (`Ending.clean_of_settle`).
-/

namespace TimedLock.Task

open Lock

section NoDuplicateRun

variable {σ ι τ γ : Type} [DecidableEq ι] [Journal σ] [Preorder τ] [DecidableLE τ] [Add τ]

/-! ## What is to be shown -/

/-- A body starts alone: its call has added its key, just now and once, and a running call with the
same key is one whose time is over. -/
def Start.Alone (lifetimes : Lifetimes τ) (start : Start τ) : Prop :=
  ∃ name a, start.name = .ok name ∧ start.own = [a] ∧ a.key = cacheKey name ∧
    a.expire = start.expire ∧ a.clock = start.clock ∧
    ∀ earlier ∈ start.running, earlier.key = a.key →
      earlier.expire ≠ .null ∧ lifetimes.Over earlier.expire earlier.clock start.clock

/-- A call ends cleanly: its token is under no key, and every entry with another token is what it
was when the body ended. -/
def Ending.Clean (ending : Ending τ γ) : Prop :=
  ∃ a, ending.own = [a] ∧ (∀ key, ending.after.isUnder key a.token = false) ∧
    ∀ key entry, ending.before.live key = some entry →
      ending.before.isUnder key a.token = false → ending.after.live key = some entry

/-- A diary of bodies that started alone and calls that ended cleanly. -/
structure Diary.Sound (lifetimes : Lifetimes τ) (diary : Diary τ γ) : Prop where
  starts : ∀ start ∈ diary.starts, start.Alone lifetimes
  endings : ∀ ending ∈ diary.endings, ending.Clean

/-- The invariant of a run. -/
structure Good (view : σ → View τ γ) (lifetimes : Lifetimes τ) (running : List (Addition τ))
    (w : Scene σ ι τ γ) : Prop where
  steady : Steady lifetimes running (seen view w) w.1.2
  sound : w.2.Sound lifetimes
  /-- The bodies that started are those of the calls that ended and of those that are running. -/
  paired : (w.2.starts.map Start.own).Perm (w.2.endings.map Ending.own ++ running.map ([·]))

/-! ## The diary -/

variable {view : σ → View τ γ} {lifetimes : Lifetimes τ} {running : List (Addition τ)}
  {diary : Diary τ γ} {v : View τ γ} {tokens : ι → Option String} {a : Addition τ}

omit [DecidableEq ι] in
/-- Under a free key there is no running call whose time is not over. -/
theorem Start.alone_of_free (h : Steady lifetimes running v tokens) (hfree : v.live a.key = none)
    (hclock : a.clock = v.clock) (name : Value) (hkey : a.key = cacheKey name) :
    Start.Alone lifetimes ⟨.ok name, a.expire, [a], running, v.clock⟩ := by
  refine ⟨name, a, rfl, rfl, hkey, rfl, hclock, ?_⟩
  intro earlier hmem hk
  have hover : earlier.IsOver lifetimes v.clock := by
    refine (h.keeps earlier hmem).resolve_right fun hl => ?_
    rw [hk, hfree] at hl
    cases hl
  exact ⟨hover.ne_null, hover⟩

omit [DecidableEq ι] in
theorem Ending.clean_of_settle (h : Steady lifetimes (a :: running) v tokens) :
    Ending.Clean ⟨[a], v, Guard.settle v a⟩ :=
  ⟨a, rfl, h.isUnder_settle, fun _ _ => live_settle⟩

theorem Diary.Sound.started (h : diary.Sound lifetimes) {start : Start τ}
    (hs : start.Alone lifetimes) : (diary.started start).Sound lifetimes where
  starts other ho := by
    rcases List.mem_append.1 ho with hold | hnew
    · exact h.starts other hold
    · rw [List.mem_singleton.1 hnew]
      exact hs
  endings := h.endings

theorem Diary.Sound.closed (h : diary.Sound lifetimes) (after : View τ γ)
    (he : ∀ own before, diary.finished = some (own, before) →
      Ending.Clean ⟨own, before, after⟩) : (diary.closed after).Sound lifetimes := by
  unfold Diary.closed
  cases hf : diary.finished with
  | none => exact h
  | some pair =>
    refine ⟨h.starts, fun ending hmem => ?_⟩
    rcases List.mem_append.1 hmem with hold | hnew
    · exact h.endings ending hold
    · rw [List.mem_singleton.1 hnew]
      exact he pair.1 pair.2 hf

/-! ## What is seen from inside a call -/

/-- All of a scene that a guarded call sees: the cache, and the rest. -/
def wholeView (view : σ → View τ γ) :
    Scene σ ι τ γ → View τ ((γ × (ι → Option String)) × Diary τ γ) :=
  View.besides (View.besides view)

variable {w t u : Scene σ ι τ γ}

omit [DecidableEq ι] [Journal σ] in
/-- The invariant does not look at the rest. -/
theorem steady_wholeView :
    Steady lifetimes running (wholeView view w) tokens
      ↔ Steady lifetimes running (seen view w) tokens :=
  ⟨fun h => ⟨h.1, h.2, h.3, h.4, h.5, h.6, h.7⟩, fun h => ⟨h.1, h.2, h.3, h.4, h.5, h.6, h.7⟩⟩

omit [DecidableEq ι] [Journal σ] [Add τ] in
theorem clean_wholeView {own : List (Addition τ)} :
    Ending.Clean ⟨own, wholeView view u, wholeView view t⟩
      ↔ Ending.Clean ⟨own, seen view u, seen view t⟩ := Iff.rfl

omit [DecidableEq ι] [Journal σ] [Add τ] in
/-- Where the rest is the same, so are the tokens of the others and the diary. -/
theorem eq_of_rest (h : (wholeView view t).rest = (wholeView view w).rest) :
    t.1.2 = w.1.2 ∧ t.2 = w.2 :=
  ⟨congrArg (fun r : (γ × (ι → Option String)) × Diary τ γ => r.1.2) h,
    congrArg (fun r : (γ × (ι → Option String)) × Diary τ γ => r.2) h⟩

omit [Add τ] in
theorem rest_settle (v : View τ γ) (a : Addition τ) : (Guard.settle v a).rest = v.rest := by
  unfold Guard.settle
  by_cases hu : v.isUnder a.key a.token = true
  · rw [if_pos hu]
    rfl
  · rw [if_neg hu]

/-! ## A guarded call -/

/-- The scene as a guarded call begins. -/
def opening (w : Scene σ ι τ γ) : Scene σ ι τ γ := (w.1, w.2.opened)

/-- The scene after a guarded call, which leaves `t` behind. -/
def closing (view : σ → View τ γ) (t : Scene σ ι τ γ) : Scene σ ι τ γ :=
  (t.1, t.2.closed (seen view t))

omit [DecidableEq ι] [Journal σ] in
/-- A call that is skipped keeps the invariant. -/
theorem Good.skipped (hw : Good view lifetimes running w)
    (hp : (wholeView view (opening w)).Passes (wholeView view t)) :
    Good view lifetimes running (closing view t) := by
  obtain ⟨htokens, hdiary⟩ := eq_of_rest hp.rest_eq
  have hbefore : Steady lifetimes running (wholeView view (opening w)) w.1.2 :=
    steady_wholeView.2 hw.steady
  refine ⟨?_, ?_, ?_⟩
  · show Steady lifetimes running (seen view t) t.1.2
    rw [htokens]
    exact steady_wholeView.1 (hbefore.passes hp)
  · show (t.2.closed (seen view t)).Sound lifetimes
    rw [hdiary]
    exact ⟨hw.sound.starts, hw.sound.endings⟩
  · unfold closing
    rw [hdiary]
    exact hw.paired

/-- The scene in which a body starts. -/
def starting (view : σ → View τ γ) (name : Except Fault Value) (running : List (Addition τ))
    (a : Addition τ) (u : Scene σ ι τ γ) : Scene σ ι τ γ :=
  (u.1, u.2.started ⟨name, a.expire, [a], running, (seen view u).clock⟩)

omit [DecidableEq ι] [Journal σ] in
/-- A call that added its key keeps the invariant for its body, in which it is running too. -/
theorem Good.start (hw : Good view lifetimes running w) {name expire : Value} {token : String}
    {v : View τ ((γ × (ι → Option String)) × Diary τ γ)}
    (hp : (wholeView view (opening w)).Passes v) (hfree : v.live (cacheKey name) = none)
    (hfresh : token ∉ v.drawn)
    (hu : wholeView view u = (v.draw token).add lifetimes (cacheKey name) token expire) :
    since (seen view w).additions.length (seen view u)
        = [Guard.callAddition name expire token v.clock] ∧
      Good view lifetimes (Guard.callAddition name expire token v.clock :: running)
        (starting view (.ok name) running (Guard.callAddition name expire token v.clock) u) := by
  have hrest : (wholeView view u).rest = (wholeView view (opening w)).rest := by
    rw [hu]
    exact hp.rest_eq
  obtain ⟨htokens, hdiary⟩ := eq_of_rest hrest
  have hclock : (seen view u).clock = v.clock := by
    show (wholeView view u).clock = v.clock
    rw [hu]
    rfl
  have hadditions : (seen view u).additions
      = Guard.callAddition name expire token v.clock :: (seen view w).additions := by
    show (wholeView view u).additions = _
    rw [hu]
    exact congrArg (List.cons _) hp.additions_eq
  have hopening : Steady lifetimes running (wholeView view (opening w)) w.1.2 :=
    steady_wholeView.2 hw.steady
  have hbefore : Steady lifetimes running v w.1.2 := hopening.passes hp
  refine ⟨?_, ?_, ?_, ?_⟩
  · unfold since
    rw [hadditions, List.length_cons, Nat.add_sub_cancel_left]
    rfl
  · show Steady lifetimes _ (seen view u) u.1.2
    refine steady_wholeView.1 ?_
    rw [htokens, hu]
    exact hbefore.push hfresh hfree
  · show (u.2.started _).Sound lifetimes
    rw [hdiary, hclock]
    have hsound : w.2.opened.Sound lifetimes := ⟨hw.sound.starts, hw.sound.endings⟩
    refine hsound.started ?_
    exact Start.alone_of_free (a := Guard.callAddition name expire token v.clock) hbefore hfree rfl
      name rfl
  · unfold starting
    rw [hdiary]
    show ((w.2.starts ++ [_]).map Start.own).Perm _
    rw [List.map_append]
    exact (List.perm_append_singleton _ _).trans ((hw.paired.cons _).trans List.perm_middle.symm)

/-- The scene in which a body has ended. -/
def finishing (view : σ → View τ γ) (a : Addition τ) (w : Scene σ ι τ γ) : Scene σ ι τ γ :=
  (w.1, w.2.finishing [a] (seen view w))

omit [DecidableEq ι] [Journal σ] in
/-- A call that settles its key keeps the invariant for what it was made inside of. -/
theorem Good.settle (hw : Good view lifetimes (a :: running) w)
    (ht : wholeView view t = Guard.settle (wholeView view (finishing view a w)) a) :
    Good view lifetimes running (closing view t) := by
  have hrest : (wholeView view t).rest = (wholeView view (finishing view a w)).rest := by
    rw [ht]
    exact rest_settle _ a
  obtain ⟨htokens, hdiary⟩ := eq_of_rest hrest
  have hbefore : Steady lifetimes (a :: running) (wholeView view (finishing view a w)) w.1.2 :=
    steady_wholeView.2 hw.steady
  refine ⟨?_, ?_, ?_⟩
  · show Steady lifetimes running (seen view t) t.1.2
    refine steady_wholeView.1 ?_
    rw [htokens, ht]
    exact hbefore.settle
  · show (t.2.closed (seen view t)).Sound lifetimes
    rw [hdiary]
    have hsound : (w.2.finishing [a] (seen view w)).Sound lifetimes :=
      ⟨hw.sound.starts, hw.sound.endings⟩
    refine hsound.closed _ ?_
    rintro own before ⟨⟩
    have hclean := Ending.clean_of_settle hbefore
    rw [← ht] at hclean
    exact clean_wholeView.1 hclean
  · unfold closing
    rw [hdiary]
    show (w.2.starts.map Start.own).Perm ((w.2.endings ++ [_]).map Ending.own ++ _)
    rw [List.map_append, List.append_assoc]
    exact hw.paired

variable {env : Surroundings σ} {designs : ι → Design}

omit [DecidableEq ι] [Journal σ] [Add τ] in
theorem toldBody_snd {name : Except Fault Value} {mark : Nat}
    {body : List (Addition τ) → Run (Scene σ ι τ γ) Value}
    (hown : since mark (seen view u) = [a]) :
    (toldBody view name a.expire mark running body u).2
      = finishing view a (body (a :: running) (starting view name running a u)).2 := by
  unfold toldBody
  rw [Run.look_bind_apply, hown]
  rfl

omit [DecidableEq ι] in
/-- **A guarded call keeps the invariant**, if its body does. -/
theorem toldCall_good (h : FaithfulSurroundings env view lifetimes) (guard : Guard)
    {fallback : Value} (hx : lifetimes.admits (guard.expire.orElse fallback)) (args : Arguments)
    {body : List (Addition τ) → Run (Scene σ ι τ γ) Value}
    (hbody : ∀ running w, Good view lifetimes running w →
      Good view lifetimes running (body running w).2)
    (hw : Good view lifetimes running w) :
    Good view lifetimes running (toldCall env view guard fallback args running body w).2 := by
  obtain ⟨outcome, t, ht, hcases⟩ := Guard.call_cases h.shared.shared guard hx args
    (fun _ => toldBody view (guard.lockName args (opening w)).1 (guard.expire.orElse fallback)
      (seen view w).additions.length running body) (opening w)
  have hend : (toldCall env view guard fallback args running body w).2 = closing view t :=
    congrArg (fun result : Except Fault Value × Scene σ ι τ γ => closing view result.2) ht
  rw [hend]
  rcases hcases with hp | ⟨name, hname, hcame⟩
  · exact hw.skipped hp
  cases hcame with
  | skipped hp => exact hw.skipped hp
  | @ran v token u hp hfree hfresh hadd _ hsettle =>
    obtain ⟨hown, hstart⟩ := hw.start hp hfree hfresh hadd
    have hbodyEnd : (toldBody view (.ok name) (guard.expire.orElse fallback)
        (seen view w).additions.length running body u).2 = finishing view _ _ := toldBody_snd hown
    rw [hname, hbodyEnd] at hsettle
    exact (hbody _ _ hstart).settle hsettle

/-- **A run keeps the invariant.** -/
theorem Conduct.run_good (h : FaithfulSurroundings env view lifetimes)
    (hx : ∀ i, lifetimes.admits (designs i).expire) (p : Conduct env view lifetimes designs) :
    ∀ running w, Good view lifetimes running w →
      Good view lifetimes running (p.run running w).2 := by
  induction p with
  | ends outcome => exact fun _ _ hw => hw
  | does doing next ih =>
    intro running w hw
    obtain ⟨moves, hmoves⟩ := doing.isRun w.1
    have hdone : Good view lifetimes running (doing.act.inShared w).2 :=
      ⟨Steady.runs h.toFaithful hx hmoves hw.steady, hw.sound, hw.paired⟩
    exact ih _ running _ hdone
  | calls guard fallback admitted args body next ihb ihn =>
    intro running w hw
    exact ihn _ running _ (toldCall_good h guard admitted args ihb hw)

/-! ## Whole runs -/

/-- Every token that is under a key or belongs to an owner was drawn. -/
structure Accounted (view : σ → View τ γ) (w : σ × (ι → Option String)) : Prop where
  owned : ∀ i token, w.2 i = some token → token ∈ (view w.1).drawn
  under : ∀ key token, (view w.1).isUnder key token = true → token ∈ (view w.1).drawn

/-- **No task runs twice before its lock expires.** In the diary of every run, each body started
alone, each call that ended whose body ran ended cleanly, and there is one such ending for each
start. -/
theorem no_duplicate_run (h : FaithfulSurroundings env view lifetimes)
    (hx : ∀ i, lifetimes.admits (designs i).expire) (p : Conduct env view lifetimes designs)
    {w : σ × (ι → Option String)} (hw : Accounted view w) :
    (∀ start ∈ (p.run [] (w, .blank)).2.2.starts, start.Alone lifetimes) ∧
      (∀ ending ∈ (p.run [] (w, .blank)).2.2.endings, ending.Clean) ∧
      ((p.run [] (w, .blank)).2.2.starts.map Start.own).Perm
        ((p.run [] (w, .blank)).2.2.endings.map Ending.own) := by
  have hstart : Good view lifetimes [] (w, Diary.blank) := {
    steady := {
      token_drawn := hw.owned
      under_drawn := hw.under
      running_drawn := by rintro a ⟨⟩
      running_distinct := List.nodup_nil
      apart := by rintro a ⟨⟩
      keeps := by rintro a ⟨⟩
      under_own := by rintro a ⟨⟩ }
    sound := ⟨by rintro start ⟨⟩, by rintro ending ⟨⟩⟩
    paired := .nil }
  have hend := p.run_good h hx [] _ hstart
  have hpaired := hend.paired
  rw [List.map_nil, List.append_nil] at hpaired
  exact ⟨hend.sound.starts, hend.sound.endings, hpaired⟩

end NoDuplicateRun

/-! ## A report that takes too long -/

/-- There are no other owners. -/
def nobody : Empty → Design := nofun

/-- The cache before anything happened. -/
def quiet : Memory × (Empty → Option String) := (.fresh, nofun)

/-- Work for some seconds. -/
def working (seconds : Nat) : Doing Memory.surroundings Memory.view nobody where
  act := do
    .change fun w => (w.1.after seconds, w.2)
    pure .null
  isRun w := ⟨[.wait], .step (.wait (Memory.passes_after w.1 seconds)) (.done _)⟩

/-- A task that may run once in a minute. -/
def report : Guard := ⟨.text "report", .int 60, .null⟩

/-- A report that works for some seconds and then calls itself. -/
def longReport (seconds : Nat) : Conduct Memory.surroundings Memory.view wholeSeconds nobody :=
  .calls report .null (.inr ⟨60, rfl⟩) ⟨[], []⟩
    (.does (working seconds) fun _ =>
      .calls report .null (.inr ⟨60, rfl⟩) ⟨[], []⟩ (.ends (.ok .null)) .ends)
    .ends

/-- A report that has worked for more than a minute can be called again, and both calls are as they
should be. -/
theorem longReport_runs_twice :
    ((longReport 61).run [] (quiet, .blank)).2.2.starts.map (·.clock) = [⟨0⟩, ⟨61⟩] ∧
      (∀ start ∈ ((longReport 61).run [] (quiet, .blank)).2.2.starts, start.Alone wholeSeconds) ∧
      (∀ ending ∈ ((longReport 61).run [] (quiet, .blank)).2.2.endings, ending.Clean) ∧
      (((longReport 61).run [] (quiet, .blank)).2.2.starts.map Start.own).Perm
        (((longReport 61).run [] (quiet, .blank)).2.2.endings.map Ending.own) := by
  have hquiet : Accounted Memory.view quiet := by
    constructor
    · rintro ⟨⟩
    · intro key token hu
      obtain ⟨expiry, he⟩ := View.isUnder_iff.1 hu
      cases he
  exact ⟨rfl, no_duplicate_run Memory.faithful (by rintro ⟨⟩) (longReport 61) hquiet⟩

example : ((longReport 59).run [] (quiet, .blank)).2.2.starts.map (·.clock) = [⟨0⟩] := by
  decide +kernel

end TimedLock.Task

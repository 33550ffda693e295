import TimedLock.App.Endpoint
import TimedLock.Proofs.Client.BundleSteps

/-!
# What the health endpoint answers

**Theorem (`reports_truly`).** Take any sequence of runs and stops of a bundle, of starts and stops
of the clients that it made, and of requests to the endpoint, wherever any of them fails and whatever
becomes of the rest of the world in between. The bundle has a health check exactly if it has a
client, and the check is the one of that client. However the client answers then, as long as the
questions themselves do not fail, the endpoint answers 200 exactly if the client was started, is
connected, may write and lists the nodes at the root, and 503 otherwise. It asks for the nodes only
if everything before them holds. So an answer of 200 says that a start of the client succeeded and
that no stop of it has completed, whether it was stopped as the client of the bundle or by itself.

What the client would answer is its `Condition`. The check is a function of that and of the stage of
the client (`check_checked`). The stages are told by what happened so far (`Wired`), and a client is
stopped just if the history has a stop of it that completed (`Chronicled`), since that is how a use
comes to stop a client (`stopped_iff_of_use`).
-/

namespace TimedLock

/-! ## What a client answers -/

/-- What a client answers when it is asked whether it is connected, for the state of its connection
and for the nodes at the root. -/
structure Client.Condition where
  connected : Except Fault Value
  keeperState : Except Fault Value
  nodes : Except Fault Value

namespace Client.Condition

/-- The client can tell how it is doing. It may still fail to list nodes, unless that fault is one
that nothing recovers from. -/
structure IsTold (c : Condition) : Prop where
  connected : ∃ v, c.connected = .ok v
  keeperState : ∃ v, c.keeperState = .ok v
  nodes : ∀ fault, c.nodes = .error fault → fault.isOrdinary = true

/-- Whether the client says that it is connected and may write. -/
def mayWrite (c : Condition) : Bool :=
  c.connected.toOption.any Value.isTruthy &&
    c.keeperState.toOption.any fun state => !state.isText readOnly

/-- Whether the client lists nodes as well. -/
def isFit (c : Condition) : Bool := c.mayWrite && c.nodes.isOk

variable {c : Condition} {fault : Fault}

theorem mayWrite_of_ok {connected keeperState : Value} (hc : c.connected = .ok connected)
    (hk : c.keeperState = .ok keeperState) :
    c.mayWrite = (connected.isTruthy && !keeperState.isText readOnly) := by
  simp [mayWrite, hc, hk, Except.toOption]

theorem not_mayWrite_of_unconnected {connected : Value} (hc : c.connected = .ok connected)
    (h : connected.isTruthy = false) : c.mayWrite = false := by
  simp [mayWrite, hc, h, Except.toOption]

/-- A client that does not say what it is asked is not known to be able to write. -/
theorem not_mayWrite_of_error (h : c.connected = .error fault ∨ c.keeperState = .error fault) :
    c.mayWrite = false := by
  obtain hc | hk := h
  · simp [mayWrite, hc, Except.toOption]
  · simp [mayWrite, hk, Except.toOption]

theorem not_isTold_of_error (h : c.connected = .error fault ∨ c.keeperState = .error fault) :
    ¬ c.IsTold := by
  intro htold
  obtain ⟨v, hv⟩ := htold.connected
  obtain ⟨u, hu⟩ := htold.keeperState
  obtain hc | hk := h
  · cases hc.symm.trans hv
  · cases hk.symm.trans hu

end Client.Condition

/-- How a client answers in a world, where the journal has another entry after each answer. -/
def Client.condition {σ : Type} [Journal σ] (client : Client σ) (first second : Entry) (s : σ) :
    Condition :=
  let connected := client.isConnected s
  let keeperState := client.keeperState (Journal.record first connected.2)
  let nodes := client.children "/" (Journal.record second keeperState.2)
  ⟨connected.1, keeperState.1, nodes.1⟩

namespace App.Endpoint

open TimedLock.Bundle

/-! ## The check -/

variable {σ κ : Type} [Journal σ]

/-- What is asked of a client whose condition is asked for. -/
def asked (number : Nat) (c : Client.Condition) : List Happening :=
  if c.mayWrite then [.listed number "/" c.nodes] else []

/-- What a check comes to that finds a client in a condition. -/
structure Checked (number : Nat) (w : World σ κ) (isUp : Bool) (c : Client.Condition)
    (r : Except Fault Report × World σ κ) : Prop where
  told : c.IsTold → ∃ message, r.1 = .ok ⟨isUp && c.isFit, message⟩
  up : ∀ report, r.1 = .ok report → report.healthy = true → isUp = true
  listed : r.2.1.2 = w.1.2 ++ if isUp then asked number c else []
  kept : r.2.2 = w.2

namespace Checked

variable {number : Nat} {w : World σ κ} {c : Client.Condition} {s : σ} {fault : Fault}

omit [Journal σ]

/-- A client that may not write, or does not say whether it may, is not asked for its nodes. -/
theorem of_barred {outcome : Except Fault Report} (hbarred : c.mayWrite = false)
    (htold : c.IsTold → ∃ message, outcome = .ok ⟨false, message⟩) :
    Checked number w true c (outcome, (s, w.1.2), w.2) where
  told h := by
    simpa [Client.Condition.isFit, hbarred] using htold h
  up _ _ _ := rfl
  listed := by simp [asked, hbarred]
  kept := rfl

/-- A client that fails to answer whether it may write keeps the check from ending. -/
theorem of_error (h : c.connected = .error fault ∨ c.keeperState = .error fault) :
    Checked number w true c (.error fault, (s, w.1.2), w.2) :=
  .of_barred (Client.Condition.not_mayWrite_of_error h) fun htold =>
    absurd htold (Client.Condition.not_isTold_of_error h)

/-- A client that may write is asked, and is fit if it answers. -/
theorem of_asked {outcome : Except Fault Report} {nodes : Except Fault Value}
    (hwrite : c.mayWrite = true) (hnodes : c.nodes = nodes)
    (htold : c.IsTold → ∃ message, outcome = .ok ⟨nodes.isOk, message⟩) :
    Checked number w true c (outcome, (s, w.1.2 ++ [.listed number "/" nodes]), w.2) where
  told h := by
    simpa [Client.Condition.isFit, hwrite, hnodes] using htold h
  up _ _ _ := rfl
  listed := by simp [asked, hwrite, hnodes]
  kept := rfl

/-- A client that is not up is not healthy, and is not asked anything. -/
theorem of_down (message : String) : Checked number w false c (.ok ⟨false, message⟩, w) where
  told _ := ⟨message, rfl⟩
  up report h hhealthy := by
    cases h
    cases hhealthy
  listed := by simp
  kept := rfl

end Checked

/-- An entry that says nothing. -/
def silence : Entry := ⟨.debug, .health, "", false⟩

theorem examine_checked (client : Client σ) (number : Nat) (name : String) (w : World σ κ) :
    ∃ first second, Checked number w true (client.condition first second w.1.1)
      (Patient.examine (numbered client number) name w) := by
  unfold Patient.examine
  rcases hconnected : client.isConnected w.1.1 with ⟨connected, s⟩
  have hc (first second : Entry) :
      (client.condition first second w.1.1).connected = connected := congrArg Prod.fst hconnected
  have hconnected' : (numbered client number).isConnected w = (connected, (s, w.1.2), w.2) :=
    Run.inShared_of (Run.inShared_of hconnected w.1.2) w.2
  cases connected with
  | error fault =>
    rw [Run.bind_error _ hconnected']
    exact ⟨silence, silence, .of_error (.inl (hc ..))⟩
  | ok connected =>
    rw [Run.bind_ok _ hconnected', Run.note_bind_apply]
    generalize Entry.mk _ _ _ _ = first
    cases htruthy : connected.isTruthy with
    | false =>
      exact ⟨first, silence, .of_barred
        (Client.Condition.not_mayWrite_of_unconnected (hc ..) htruthy) fun _ => ⟨_, rfl⟩⟩
    | true =>
      rw [Bool.not_true, if_neg Bool.false_ne_true]
      rcases hkeeper : client.keeperState (Journal.record first s) with ⟨keeperState, t⟩
      have hk (second : Entry) :
          (client.condition first second w.1.1).keeperState = keeperState := by
        simp [Client.condition, hconnected, hkeeper]
      have hkeeper' : (numbered client number).keeperState
          (Journal.record first ((s, w.1.2), w.2)) = (keeperState, (t, w.1.2), w.2) :=
        Run.inShared_of (Run.inShared_of hkeeper w.1.2) w.2
      cases keeperState with
      | error fault =>
        rw [Run.bind_error _ hkeeper']
        exact ⟨first, silence, .of_error (.inr (hk _))⟩
      | ok keeperState =>
        rw [Run.bind_ok _ hkeeper', Run.note_bind_apply]
        generalize Entry.mk _ _ _ _ = second
        have hwrite := Client.Condition.mayWrite_of_ok (hc first second) (hk second)
        rw [htruthy, Bool.true_and] at hwrite
        refine ⟨first, second, ?_⟩
        cases hreadOnly : keeperState.isText Client.readOnly with
        | true => exact .of_barred (hwrite.trans (by rw [hreadOnly]; rfl)) fun _ => ⟨_, rfl⟩
        | false =>
          rw [hreadOnly] at hwrite
          rw [if_neg Bool.false_ne_true, Run.attempt_bind_apply]
          rcases hnodes : client.children "/" (Journal.record second t) with ⟨nodes, u⟩
          have hn : (client.condition first second w.1.1).nodes = nodes := by
            simp [Client.condition, hconnected, hkeeper, hnodes]
          have hnodes' : (numbered client number).children "/"
              (Journal.record second ((t, w.1.2), w.2))
              = (nodes, (u, w.1.2 ++ [.listed number "/" nodes]), w.2) :=
            Run.inShared_of (Run.logged_of hnodes (Happening.listed number "/") w.1.2) w.2
          rw [hnodes']
          cases nodes with
          | ok nodes => exact .of_asked hwrite hn fun _ => ⟨_, rfl⟩
          | error fault =>
            dsimp only
            cases hordinary : fault.isOrdinary with
            | true => exact .of_asked hwrite hn fun _ => ⟨_, rfl⟩
            | false =>
              refine .of_asked hwrite hn fun htold => ?_
              exact absurd (htold.nodes fault hn) (Bool.eq_false_iff.1 hordinary)

/-- The published names tell the stages apart. -/
theorem isText_name (stage other : Stage) :
    (Value.text stage.name).isText other.name = decide (stage = other) := by
  cases stage <;> cases other <;> decide

/-- **A check.** -/
theorem check_checked (maker : Client.Maker σ κ) (ref : ManagedRef κ) (connectString : Value)
    (w : World σ κ) :
    ∃ first second, Checked ref.number w (w.2.stage ref.number = .started)
      ((maker.client ref.known).condition first second w.1.1)
      (((ofMaker maker).managed ref).patient.check connectString w) := by
  have hread : ((ofMaker maker).managed ref).stage.read w = w.2.stage ref.number := rfl
  unfold Patient.check Managed.patient
  rw [bind_assoc, Slot.get_bind_apply, pure_bind, hread]
  simp only [isText_name]
  cases w.2.stage ref.number with
  | latent => exact ⟨silence, silence, .of_down _⟩
  | started => exact examine_checked (maker.client ref.known) ref.number connectString.display w
  | stopped => exact ⟨silence, silence, .of_down _⟩

/-! ## The answer -/

/-- The answer that gives a report. -/
def answer (settings : Settings) (report : Report) : Response :=
  ⟨if report.healthy then 200 else 503, some (reportBody settings.healthCheckNameInForce report)⟩

section Answers

variable (maker : Client.Maker σ κ) (settings : Settings) {w : World σ κ}

theorem health_of_none (h : w.2.bundle.health = none) :
    health (ofMaker maker) settings w = (.ok (answer settings unconfigured), w) := by
  have hread : ((ofMaker maker).state.read w).health = none := h
  unfold health
  rw [Slot.get_bind_apply, hread]
  rfl

theorem health_of_some {check : HealthCheck (ManagedRef κ)} (h : w.2.bundle.health = some check) :
    health (ofMaker maker) settings w
      = ((((ofMaker maker).checkHealth check w).1).map (answer settings),
        ((ofMaker maker).checkHealth check w).2) := by
  have hread : ((ofMaker maker).state.read w).health = some check := h
  unfold health
  rw [Slot.get_bind_apply, hread]
  rcases hcheck : (ofMaker maker).checkHealth check w with ⟨outcome, v⟩
  cases outcome with
  | error fault => exact Run.bind_error _ hcheck
  | ok report => exact Run.bind_ok _ hcheck

theorem health_kept (w : World σ κ) : (health (ofMaker maker) settings w).2.2 = w.2 := by
  cases hcheck : w.2.bundle.health with
  | none => rw [health_of_none maker settings hcheck]
  | some check =>
    rw [health_of_some maker settings hcheck]
    obtain ⟨_, _, hchecked⟩ := check_checked maker check.managed check.connectString w
    exact hchecked.kept

end Answers

/-! ## Whole histories -/

/-- What can be done with a bundle, its clients and the endpoint. -/
inductive Use (σ : Type)
  | run (config : Config)
  | stop
  | startClient (number : Nat)
  | stopClient (number : Nat)
  | request (settings : Settings)
  /-- Something happens to the rest of the world, such as the loss of a connection. -/
  | meanwhile (f : σ → σ)

/-- Does something with a managed client, if there is one of that number. -/
def onClient (maker : Client.Maker σ κ) (number : Nat)
    (f : Managed (World σ κ) → Run (World σ κ) Unit) : Run (World σ κ) Unit := do
  match (← Run.look fun w => w.2.managed.find? (·.number = number)) with
  | none => pure ()
  | some ref => f ((ofMaker maker).managed ref)

omit [Journal σ] in
/-- Something is done with the managed client of that number, if there is one. -/
theorem onClient_spec (maker : Client.Maker σ κ) (number : Nat)
    (f : Managed (World σ κ) → Run (World σ κ) Unit) (w : World σ κ) :
    (onClient maker number f w = (.ok (), w) ∧ ∀ ref ∈ w.2.managed, ref.number ≠ number) ∨
      ∃ ref ∈ w.2.managed, ref.number = number ∧
        onClient maker number f w = f ((ofMaker maker).managed ref) w := by
  unfold onClient
  rw [Run.look_bind_apply]
  cases href : w.2.managed.find? (·.number = number) with
  | none => exact .inl ⟨rfl, by simpa using href⟩
  | some ref =>
    exact .inr ⟨ref, List.mem_of_find?_eq_some href, by simpa using List.find?_some href, rfl⟩

/-- What a use does. -/
def perform (maker : Client.Maker σ κ) : Use σ → Run (World σ κ) Unit
  | .run config => ((ofMaker maker).run config).forget
  | .stop => (ofMaker maker).stop
  | .startClient number => onClient maker number Managed.start
  | .stopClient number => onClient maker number Managed.stop
  | .request settings => (health (ofMaker maker) settings).forget
  | .meanwhile f => Run.change fun w => ((f w.1.1, w.1.2), w.2)

/-- Whether a use is a stop of the client of a number: the one that the bundle holds, or one that was
made before. -/
def Use.IsStopOf (use : Use σ) (number : Nat) (w : World σ κ) : Prop :=
  match use with
  | .stop => w.2.current = some number
  | .stopClient other => other = number ∧ ∃ ref ∈ w.2.managed, ref.number = number
  | _ => False

/-- Some stop of the client of a number has completed. -/
def WasStopped (maker : Client.Maker σ κ) (s : σ) (past : List (Use σ × Except Fault Unit))
    (number : Nat) : Prop :=
  ∃ before use after w, past = before ++ (use, .ok ()) :: after ∧
    Trail (perform maker) before (fresh s) w ∧ use.IsStopOf number w

/-- What is true of a bundle and its clients at any time. -/
structure Wired (w : World σ κ) : Prop where
  paired : w.2.bundle.health.map (·.managed) = w.2.bundle.managed
  kept : ∀ ref, w.2.bundle.managed = some ref → ref ∈ w.2.managed
  made : ∀ ref ∈ w.2.managed, ref.number < w.2.made
  unmade : ∀ number, w.2.made ≤ number → w.2.stage number = .latent
  started : ∀ number, w.2.stage number = .started → .started number (.ok ()) ∈ w.1.2
  begun : ∀ number, .started number (.ok ()) ∈ w.1.2 → w.2.stage number ≠ .latent
  stopped : ∀ number, .closed number (.ok ()) ∈ w.1.2 → w.2.stage number = .stopped

namespace Wired

variable {w v : World σ κ} {maker : Client.Maker σ κ}

omit [Journal σ]

theorem fresh (s : σ) : Wired (Bundle.fresh s : World σ κ) where
  paired := rfl
  kept _ h := by cases h
  made _ h := by cases h
  unmade _ _ := rfl
  started _ h := by cases h
  begun _ h := by cases h
  stopped _ h := by cases h

/-- What leaves the stages alone, and starts and closes no client, keeps all of this. -/
theorem congr (h : Wired w) (hv : v.2 = w.2) {more : List Happening} (hpast : v.1.2 = w.1.2 ++ more)
    (hmore : ∀ number, .started number (.ok ()) ∉ more ∧ .closed number (.ok ()) ∉ more) :
    Wired v where
  paired := hv ▸ h.paired
  kept := hv ▸ h.kept
  made := hv ▸ h.made
  unmade := hv ▸ h.unmade
  started number hstage := by
    rw [hv] at hstage
    rw [hpast]
    exact List.mem_append_left _ (h.started number hstage)
  begun number hstarted := by
    rw [hpast, List.mem_append, or_iff_left (hmore number).1] at hstarted
    exact hv ▸ h.begun number hstarted
  stopped number hclosed := by
    rw [hpast, List.mem_append, or_iff_left (hmore number).2] at hclosed
    exact hv ▸ h.stopped number hclosed

/-- A client that is up was not closed. -/
theorem not_closed (h : Wired w) {number : Nat} (hstage : w.2.stage number = .started) :
    .closed number (.ok ()) ∉ w.1.2 := by
  intro hclosed
  cases hstage.symm.trans (h.stopped number hclosed)

theorem withStage_unmade (h : Wired w) {number other : Nat} {stage : Stage}
    (hmade : number < w.2.made) (hother : w.2.made ≤ other) :
    (w.2.withStage number stage).stage other = .latent := by
  have hne : other ≠ number := Nat.ne_of_gt (Nat.lt_of_lt_of_le hmade hother)
  rw [Memory.stage_withStage_of_ne _ _ hne, h.unmade other hother]

/-- A latent client was not closed, so it may become one that was started. -/
theorem of_started {number : Nat} {s : σ} (h : Wired w) (hmade : number < w.2.made)
    (hlatent : w.2.stage number = .latent) :
    Wired (((s, w.1.2 ++ [.started number (.ok ())]), w.2.withStage number .started) :
      World σ κ) where
  paired := h.paired
  kept := h.kept
  made := h.made
  unmade _ := h.withStage_unmade hmade
  started other hstage := by
    by_cases hsame : other = number
    · simp [hsame]
    · rw [Memory.stage_withStage_of_ne _ _ hsame] at hstage
      exact List.mem_append_left _ (h.started other hstage)
  begun other hstarted := by
    by_cases hsame : other = number
    · subst hsame
      simp
    · rw [Memory.stage_withStage_of_ne _ _ hsame]
      exact h.begun other (by simpa [hsame] using hstarted)
  stopped other hclosed := by
    have hstopped := h.stopped other (by simpa using hclosed)
    have hne : other ≠ number := by
      rintro rfl
      cases hlatent.symm.trans hstopped
    exact (Memory.stage_withStage_of_ne _ _ hne).trans hstopped

theorem of_stopped {number : Nat} {s : σ} (h : Wired w) (hmade : number < w.2.made) :
    Wired (((s, w.1.2 ++ [.stopped number (.ok ()), .closed number (.ok ())]),
      w.2.withStage number .stopped) : World σ κ) where
  paired := h.paired
  kept := h.kept
  made := h.made
  unmade _ := h.withStage_unmade hmade
  started other hstage := by
    have hne : other ≠ number := by
      rintro rfl
      simp at hstage
    rw [Memory.stage_withStage_of_ne _ _ hne] at hstage
    exact List.mem_append_left _ (h.started other hstage)
  begun other hstarted := by
    by_cases hsame : other = number
    · subst hsame
      simp
    · rw [Memory.stage_withStage_of_ne _ _ hsame]
      exact h.begun other (by simpa using hstarted)
  stopped other hclosed := by
    by_cases hsame : other = number
    · subst hsame
      exact Memory.stage_withStage_self ..
    · have hstopped := h.stopped other (by simpa [hsame] using hclosed)
      exact (Memory.stage_withStage_of_ne _ _ hsame).trans hstopped

/-- The next client to be made is none that is not latent any more. -/
theorem ne_made (h : Wired w) {number : Nat} (hstage : w.2.stage number ≠ .latent) :
    number ≠ w.2.made := by
  rintro rfl
  exact hstage (h.unmade _ (Nat.le_refl _))

/-- A client that was just made is latent, and the bundle looks at it from then on. -/
theorem of_made (config : Config) (known : κ) (s : σ) (h : Wired w) :
    Wired (((s, w.1.2 ++ [.made w.2.made]), w.2.run config known) : World σ κ) where
  paired := rfl
  kept ref href := by
    cases href
    exact List.mem_append_right _ List.mem_cons_self
  made ref href := by
    obtain hold | hnew := List.mem_append.1 href
    · exact Nat.lt_succ_of_lt (h.made ref hold)
    · cases List.mem_singleton.1 hnew
      exact Nat.lt_succ_self _
  unmade number hnumber :=
    (Memory.stage_run_of_ne _ _ _ (Nat.ne_of_gt hnumber)).trans
      (h.unmade number (Nat.le_of_succ_le hnumber))
  started number hstage := by
    have hne : number ≠ w.2.made := by
      rintro rfl
      cases (Memory.stage_run w.2 config known).symm.trans hstage
    rw [Memory.stage_run_of_ne _ _ _ hne] at hstage
    exact List.mem_append_left _ (h.started number hstage)
  begun number hstarted := by
    have hbegun := h.begun number (by simpa using hstarted)
    rwa [Memory.stage_run_of_ne _ _ _ (h.ne_made hbegun)]
  stopped number hclosed := by
    have hstopped := h.stopped number (by simpa using hclosed)
    have hne : number ≠ w.2.made := h.ne_made (by simp [hstopped])
    exact (Memory.stage_run_of_ne _ _ _ hne).trans hstopped

theorem of_futile {client : Client σ} {number : Nat} {tried : List Happening} {s : σ}
    (h : Wired w) (htried : Futile client number tried) :
    Wired (((s, w.1.2 ++ tried), w.2) : World σ κ) := by
  refine h.congr rfl rfl fun number => ?_
  cases htried <;> simp

theorem of_began {client : Client σ} {number : Nat} {outcome : Except Fault Unit} (h : Wired w)
    (hmade : number < w.2.made) (hv : Began client number w outcome v) : Wired v := by
  cases hv with
  | idle _ => exact h
  | futile _ htried => exact h.of_futile htried
  | started hlatent _ => exact h.of_started hmade hlatent

theorem of_ended {client : Client σ} {number : Nat} {outcome : Except Fault Unit} (h : Wired w)
    (hmade : number < w.2.made) (hv : Ended client number w outcome v) : Wired v := by
  cases hv with
  | unstopped _ => exact h.congr rfl rfl (by simp)
  | unclosed _ => exact h.congr rfl rfl (by simp)
  | stopped => exact h.of_stopped hmade

/-- A run that makes a client is a start of that client. -/
theorem of_ran [Journal σ] {config : Config} {outcome : Except Fault (ManagedRef κ)} (h : Wired w)
    (hv : Ran maker config w outcome v) : Wired v := by
  cases hv with
  | unmade _ => exact { h with }
  | @futile known _ _ s _ htried =>
    have hmade := (h.of_made config known s).of_futile (s := s) htried
    rwa [List.append_assoc] at hmade
  | @started known _ s _ _ =>
    have hmade := (h.of_made config known s).of_started (s := s) (Nat.lt_succ_self _)
      (Memory.stage_run w.2 config known)
    rwa [List.append_assoc] at hmade

theorem of_checked {number : Nat} {isUp : Bool} {c : Client.Condition}
    {r : Except Fault Report × World σ κ} (h : Wired w) (hr : Checked number w isUp c r) :
    Wired r.2 := by
  refine h.congr hr.kept hr.listed fun number => ?_
  unfold asked
  cases isUp <;> cases c.mayWrite <;> simp

/-- The health check of a bundle is the one of its client. -/
theorem exists_check (h : Wired w) {ref : ManagedRef κ} (href : w.2.bundle.managed = some ref) :
    ∃ connectString, w.2.bundle.health = some ⟨ref, connectString⟩ := by
  obtain ⟨check, hcheck, rfl⟩ := Option.map_eq_some_iff.1 (h.paired.trans href)
  exact ⟨check.connectString, hcheck⟩

theorem of_client (h : Wired w) (number : Nat) (f : Managed (World σ κ) → Run (World σ κ) Unit)
    (hf : ∀ ref ∈ w.2.managed, Wired (f ((ofMaker maker).managed ref) w).2) :
    Wired (onClient maker number f w).2 := by
  obtain ⟨hnone, -⟩ | ⟨ref, href, -, hsome⟩ := onClient_spec maker number f w
  · rwa [hnone]
  · rw [hsome]
    exact hf ref href

theorem of_use [Journal σ] (h : Wired w) (maker : Client.Maker σ κ) (use : Use σ) :
    Wired (perform maker use w).2 := by
  cases use with
  | run config =>
    unfold perform
    rw [Run.forget_snd]
    exact h.of_ran (run_ran maker w config)
  | stop =>
    change Wired ((ofMaker maker).stop w).2
    obtain ⟨-, hstop⟩ | ⟨ref, href, hended⟩ := stop_spec maker w
    · rwa [hstop]
    · exact h.of_ended (h.made ref (h.kept ref href)) hended
  | startClient number =>
    exact h.of_client number Managed.start fun ref href =>
      h.of_began (h.made ref href) (start_began maker ref w)
  | stopClient number =>
    exact h.of_client number Managed.stop fun ref href =>
      h.of_ended (h.made ref href) (stop_ended maker ref w)
  | request settings =>
    unfold perform
    rw [Run.forget_snd]
    cases hcheck : w.2.bundle.health with
    | none => rwa [health_of_none maker settings hcheck]
    | some check =>
      rw [health_of_some maker settings hcheck]
      obtain ⟨_, _, hchecked⟩ := check_checked maker check.managed check.connectString w
      exact h.of_checked hchecked
  | meanwhile f => exact { h with }

end Wired

/-! ## Which clients were stopped -/

section Stops

variable {maker : Client.Maker σ κ} {s : σ} {past : List (Use σ × Except Fault Unit)}
  {use : Use σ} {outcome : Except Fault Unit} {w v : World σ κ} {number : Nat}

/-- A latent client that becomes one that was started was not stopped, and is not. -/
theorem stopped_withStage_started {m : Memory κ} (hlatent : m.stage number = .latent) (other : Nat) :
    (m.withStage number .started).stage other = .stopped ↔ m.stage other = .stopped := by
  by_cases hsame : other = number
  · simp [hsame, hlatent]
  · rw [Memory.stage_withStage_of_ne _ _ hsame]

omit [Journal σ] in
/-- Starting a client stops none. -/
theorem stopped_iff_of_began {client : Client σ} (hv : Began client number w outcome v)
    (other : Nat) : v.2.stage other = .stopped ↔ w.2.stage other = .stopped := by
  cases hv with
  | idle _ => rfl
  | futile _ _ => rfl
  | started hlatent _ => exact stopped_withStage_started hlatent other

omit [Journal σ] in
/-- A stop that completes stops its client, and one that fails stops none. -/
theorem stopped_iff_of_ended {client : Client σ} (hv : Ended client number w outcome v)
    (other : Nat) : v.2.stage other = .stopped ↔
      w.2.stage other = .stopped ∨ outcome = .ok () ∧ number = other := by
  cases hv with
  | unstopped _ => simp
  | unclosed _ => simp
  | stopped =>
    by_cases hsame : other = number
    · simp [hsame]
    · simp [Memory.stage_withStage_of_ne _ _ hsame, Ne.symm hsame]

/-- A run stops no client, and the one that it makes was not there to be stopped. -/
theorem stopped_iff_of_ran {config : Config} {answer : Except Fault (ManagedRef κ)} (h : Wired w)
    (hv : Ran maker config w answer v) (other : Nat) :
    v.2.stage other = .stopped ↔ w.2.stage other = .stopped := by
  have hmade (known : κ) :
      (w.2.run config known).stage other = .stopped ↔ w.2.stage other = .stopped := by
    by_cases hsame : other = w.2.made
    · subst hsame
      rw [Memory.stage_run, h.unmade _ (Nat.le_refl _)]
    · rw [Memory.stage_run_of_ne _ _ _ hsame]
  cases hv with
  | unmade _ => rfl
  | futile _ _ => exact hmade _
  | started _ _ =>
    exact (stopped_withStage_started (Memory.stage_run ..) other).trans (hmade _)

/-- A use stops a client just if it is a stop of that client and completes. -/
theorem stopped_iff_of_use (h : Wired w) (maker : Client.Maker σ κ) (use : Use σ) (number : Nat) :
    (perform maker use w).2.2.stage number = .stopped ↔
      w.2.stage number = .stopped ∨
        (perform maker use w).1 = .ok () ∧ use.IsStopOf number w := by
  cases use with
  | run config =>
    simp only [Use.IsStopOf, and_false, or_false]
    unfold perform
    rw [Run.forget_snd]
    exact stopped_iff_of_ran h (run_ran maker w config) number
  | stop =>
    change ((ofMaker maker).stop w).2.2.stage number = .stopped ↔
      _ ∨ ((ofMaker maker).stop w).1 = .ok () ∧ w.2.current = some number
    obtain ⟨hnone, hstop⟩ | ⟨ref, href, hended⟩ := stop_spec maker w
    · simp [hstop, Memory.current, hnone]
    · rw [stopped_iff_of_ended hended]
      simp [Memory.current, href]
  | startClient other =>
    simp only [Use.IsStopOf, and_false, or_false]
    change (onClient maker other Managed.start w).2.2.stage number = .stopped ↔ _
    obtain ⟨hnone, -⟩ | ⟨ref, -, -, hsome⟩ := onClient_spec maker other Managed.start w
    · rw [hnone]
    · rw [hsome]
      exact stopped_iff_of_began (start_began maker ref w) number
  | stopClient other =>
    change (onClient maker other Managed.stop w).2.2.stage number = .stopped ↔
      _ ∨ (onClient maker other Managed.stop w).1 = .ok () ∧
        other = number ∧ ∃ ref ∈ w.2.managed, ref.number = number
    obtain ⟨hnone, hother⟩ | ⟨ref, href, rfl, hsome⟩ := onClient_spec maker other Managed.stop w
    · have hnotStop : ¬ (other = number ∧ ∃ ref ∈ w.2.managed, ref.number = number) := by
        rintro ⟨rfl, ref, href, hnumber⟩
        exact hother ref href hnumber
      simp [hnone, hnotStop]
    · rw [hsome, stopped_iff_of_ended (stop_ended maker ref w)]
      have hkept : ref.number = number → ∃ ref ∈ w.2.managed, ref.number = number :=
        fun hnumber => ⟨ref, href, hnumber⟩
      rw [and_iff_left_of_imp hkept]
  | request settings =>
    simp only [Use.IsStopOf, and_false, or_false]
    unfold perform
    rw [Run.forget_snd, health_kept]
  | meanwhile f =>
    simp only [Use.IsStopOf, and_false, or_false]
    rfl

/-- The last use of a history is a stop that completed, or there was one before. -/
theorem wasStopped_concat (hv : Trail (perform maker) past (fresh s) w) :
    WasStopped maker s (past ++ [(use, outcome)]) number ↔
      WasStopped maker s past number ∨ outcome = .ok () ∧ use.IsStopOf number w := by
  constructor
  · rintro ⟨before, earlier, after, v, hpast, hbefore, hstop⟩
    obtain rfl | ⟨after, last, rfl⟩ := after.eq_nil_or_concat
    · obtain ⟨rfl, hlast⟩ := List.append_singleton_inj.1 hpast
      cases hlast
      rw [hv.unique hbefore]
      exact .inr ⟨rfl, hstop⟩
    · rw [List.concat_eq_append, ← List.cons_append, ← List.append_assoc] at hpast
      exact .inl ⟨before, earlier, after, v, (List.append_singleton_inj.1 hpast).1, hbefore, hstop⟩
  · rintro (⟨before, earlier, after, v, rfl, hbefore, hstop⟩ | ⟨rfl, hstop⟩)
    · exact ⟨before, earlier, after ++ [(use, outcome)], v, by simp, hbefore, hstop⟩
    · exact ⟨past, use, [], w, rfl, hv, hstop⟩

/-- What holds of a bundle, its clients and its history. -/
structure Chronicled (maker : Client.Maker σ κ) (s : σ) (past : List (Use σ × Except Fault Unit))
    (w : World σ κ) : Prop where
  trail : Trail (perform maker) past (fresh s) w
  wired : Wired w
  stopped : ∀ number, w.2.stage number = .stopped ↔ WasStopped maker s past number

theorem chronicled (hv : Trail (perform maker) past (fresh s) w) : Chronicled maker s past w := by
  refine hv.invariant ⟨.refl _, .fresh s, fun number => ?_⟩ fun past w use hw =>
    ⟨.snoc use hw.trail, hw.wired.of_use maker use, fun number => ?_⟩
  · refine ⟨nofun, ?_⟩
    rintro ⟨before, _, _, _, hpast, -⟩
    simp at hpast
  · rw [stopped_iff_of_use hw.wired, wasStopped_concat hw.trail, hw.stopped]

end Stops

/-- What the endpoint answers where, after some history, the bundle has a client in a condition. -/
structure Reported (maker : Client.Maker σ κ) (s : σ) (past : List (Use σ × Except Fault Unit))
    (settings : Settings) (ref : ManagedRef κ) (w : World σ κ) (c : Client.Condition)
    (r : Except Fault Response × World σ κ) : Prop where
  told : c.IsTold →
    ∃ message, r.1 = .ok (answer settings ⟨w.2.stage ref.number = .started && c.isFit, message⟩)
  /-- The client is asked for its nodes only if all else holds. -/
  listed : r.2.1.2 = w.1.2 ++ if w.2.stage ref.number = .started then asked ref.number c else []
  kept : r.2.2 = w.2
  /-- The client is up if a start of it succeeded and no stop of it has completed. -/
  started : w.2.stage ref.number = .started ↔
    .started ref.number (.ok ()) ∈ w.1.2 ∧ ¬ WasStopped maker s past ref.number
  up : ∀ response, r.1 = .ok response → response.status = 200 →
    .started ref.number (.ok ()) ∈ w.1.2 ∧ .closed ref.number (.ok ()) ∉ w.1.2 ∧
      ¬ WasStopped maker s past ref.number

theorem Chronicled.started_iff {maker : Client.Maker σ κ} {s : σ}
    {past : List (Use σ × Except Fault Unit)} {w : World σ κ} (h : Chronicled maker s past w)
    (number : Nat) : w.2.stage number = .started ↔
      .started number (.ok ()) ∈ w.1.2 ∧ ¬ WasStopped maker s past number := by
  rw [← h.stopped]
  constructor
  · intro hstage
    exact ⟨h.wired.started number hstage, by simp [hstage]⟩
  · rintro ⟨hstarted, hstopped⟩
    have hbegun := h.wired.begun number hstarted
    cases hstage : w.2.stage number with
    | latent => exact absurd hstage hbegun
    | started => rfl
    | stopped => exact absurd hstage hstopped

theorem Chronicled.reported {maker : Client.Maker σ κ} {s : σ}
    {past : List (Use σ × Except Fault Unit)} {settings : Settings} {ref : ManagedRef κ}
    {w : World σ κ} {c : Client.Condition} {r : Except Fault Report × World σ κ}
    (h : Chronicled maker s past w)
    (hr : Checked ref.number w (w.2.stage ref.number = .started) c r) :
    Reported maker s past settings ref w c (r.1.map (answer settings), r.2) where
  told htold := by
    obtain ⟨message, hreport⟩ := hr.told htold
    exact ⟨message, congrArg (Except.map (answer settings)) hreport⟩
  listed := by simpa only [decide_eq_true_eq] using hr.listed
  kept := hr.kept
  started := h.started_iff ref.number
  up response hresponse hstatus := by
    cases hreport : r.1 with
    | error fault =>
      rw [hreport] at hresponse
      cases hresponse
    | ok report =>
      rw [hreport] at hresponse
      cases hresponse
      have hhealthy : report.healthy = true := by
        by_contra hunhealthy
        rw [answer, if_neg hunhealthy] at hstatus
        cases hstatus
      have hstage := of_decide_eq_true (hr.up report hreport hhealthy)
      obtain ⟨hstarted, hstopped⟩ := (h.started_iff _).1 hstage
      exact ⟨hstarted, h.wired.not_closed hstage, hstopped⟩

/-- **What the health endpoint answers.** -/
theorem reports_truly {maker : Client.Maker σ κ} {past : List (Use σ × Except Fault Unit)} {s : σ}
    {w : World σ κ} (hv : Trail (perform maker) past (fresh s) w) (settings : Settings) :
    w.2.bundle.health.map (·.managed) = w.2.bundle.managed ∧
    (w.2.bundle.managed = none →
      health (ofMaker maker) settings w = (.ok (answer settings unconfigured), w)) ∧
    ∀ ref, w.2.bundle.managed = some ref → ∃ first second,
      Reported maker s past settings ref w
        ((maker.client ref.known).condition first second w.1.1)
        (health (ofMaker maker) settings w) := by
  have h := chronicled hv
  refine ⟨h.wired.paired, fun hnone => ?_, fun ref href => ?_⟩
  · refine health_of_none maker settings ?_
    exact Option.map_eq_none_iff.1 (h.wired.paired.trans hnone)
  · obtain ⟨connectString, hcheck⟩ := h.wired.exists_check href
    obtain ⟨first, second, hchecked⟩ := check_checked maker ref connectString w
    refine ⟨first, second, ?_⟩
    rw [health_of_some maker settings hcheck]
    exact h.reported hchecked

/-- The first start of the client fails when the bundle runs, and the endpoint answers 503. After a
start that succeeds it answers 200, until a stop completes. -/
theorem reports_after_second_start :
    let ran := perform hesitant (.run Config.defaults) (fresh ([], 1))
    let started := perform hesitant (.startClient 0) ran.2
    let stopped := perform hesitant .stop started.2
    let past : List (Use (List Entry × Nat) × Except Fault Unit) :=
      [(.run Config.defaults, ran.1), (.startClient 0, started.1)]
    ((health (ofMaker hesitant) Settings.unset ran.2).1.map (·.status) = .ok 503) ∧
      (∃ message, (health (ofMaker hesitant) Settings.unset started.2).1
        = .ok (answer Settings.unset ⟨true, message⟩)) ∧
      (.started 0 (.ok ()) ∈ started.2.1.2 ∧ .closed 0 (.ok ()) ∉ started.2.1.2 ∧
        ¬ WasStopped hesitant ([], 1) past 0) ∧
      ((health (ofMaker hesitant) Settings.unset stopped.2).1.map (·.status) = .ok 503) ∧
      WasStopped hesitant ([], 1) (past ++ [(.stop, stopped.1)]) 0 := by
  intro ran started stopped past
  have hran : Trail (perform hesitant) _ (fresh ([], 1)) ran.2 :=
    .snoc (Use.run Config.defaults) (.refl _)
  have hv : Trail (perform hesitant) past (fresh ([], 1)) started.2 :=
    hran.snoc (Use.startClient 0)
  obtain ⟨-, -, hreported⟩ := reports_truly hv Settings.unset
  obtain ⟨first, second, hreported⟩ := hreported ⟨⟨0, ()⟩, Config.defaults.connectionTimeout⟩ rfl
  refine ⟨rfl, hreported.told ⟨⟨_, rfl⟩, ⟨_, rfl⟩, nofun⟩, hreported.up _ rfl rfl, rfl, ?_⟩
  exact ⟨past, .stop, [], started.2, rfl, hv, rfl⟩

end App.Endpoint

end TimedLock

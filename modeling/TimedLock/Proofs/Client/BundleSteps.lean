import Mathlib.Logic.Function.Basic
import TimedLock.Client.Bundle
import TimedLock.Proofs.Client.Lifecycle

/-!
# What a bundle does to its clients

The operations of a bundle and of the managed clients that it keeps, one by one: how each can end,
what the clients were asked to do, and what the bundle holds after it. Clients are numbered in the
order in which they are made, so that one that the bundle let go of can still be spoken of.

* Starting a managed client asks its client at most once, and only while it is latent
  (`start_began`); stopping it asks its client to stop and then to close (`stop_ended`).
* A run that fails to make a client leaves the bundle with the client it had. Otherwise the bundle
  holds the new client and its health check from then on, whether the start succeeds or not
  (`run_ran`).

What the clients are asked to do is written to a list in the world of the bundle, which nothing that
the bundle does depends on.
-/

namespace TimedLock

/-- Whether stopping and closing the client always succeeds. -/
def Client.Stops {σ : Type} (client : Client σ) : Prop :=
  (∀ s, ∃ t, client.stop s = (.ok (), t)) ∧ ∀ s, ∃ t, client.close s = (.ok (), t)

namespace Bundle

/-! ## What is written down -/

/-- What happened to the clients of a bundle, each of them known by its number. -/
inductive Happening
  | made (client : Nat)
  | started (client : Nat) (answer : Except Fault Unit)
  | stopped (client : Nat) (answer : Except Fault Unit)
  | closed (client : Nat) (answer : Except Fault Unit)
  /-- The client was asked for the nodes below a path. -/
  | listed (client : Nat) (path : String) (answer : Except Fault Value)
  /-- The bundle is to be stopped at the end of the program. -/
  | exitRegistered

/-- What did not happen later happened before. -/
theorem concat_prefix_append {before past more : List Happening} {happening : Happening}
    (h : happening ∉ more) :
    before ++ [happening] <+: past ++ more ↔ before ++ [happening] <+: past := by
  induction more generalizing past with
  | nil => rw [List.append_nil]
  | cons later more ih =>
    rw [List.append_cons past, ih fun hm => h (List.mem_cons_of_mem _ hm), List.prefix_concat_iff]
    refine or_iff_right fun heq => h ?_
    rw [(List.append_singleton_inj.1 heq).2]
    exact List.mem_cons_self

/-- A client, with its number. -/
structure ClientRef (κ : Type) where
  number : Nat
  known : κ

/-- A managed client, with the number of its client. -/
structure ManagedRef (κ : Type) extends ClientRef κ where
  connectionTimeout : Value

/-- What a bundle holds, and what is kept of all clients that were made for it. -/
structure Memory (κ : Type) where
  /-- How many clients were made. -/
  made : Nat
  managed : List (ManagedRef κ)
  stage : Nat → Stage
  bundle : BundleState (ManagedRef κ)

namespace Memory

variable {κ : Type}

/-- Nothing was made. -/
def unused : Memory κ := ⟨0, [], fun _ => .latent, .unused⟩

def withStage (m : Memory κ) (number : Nat) (stage : Stage) : Memory κ :=
  { m with stage := Function.update m.stage number stage }

/-- Keeps a managed client, which is latent. -/
def adopt (m : Memory κ) (ref : ManagedRef κ) : Memory κ :=
  { m with managed := m.managed ++ [ref], stage := Function.update m.stage ref.number .latent }

/-- The managed client that a run with a configuration would bring about next. -/
def next (m : Memory κ) (config : Config) (known : κ) : ManagedRef κ :=
  ⟨⟨m.made, known⟩, config.connectionTimeout⟩

/-- What there is once a run has made its client. -/
def run (m : Memory κ) (config : Config) (known : κ) : Memory κ :=
  { Memory.adopt { m with made := m.made + 1 } (m.next config known) with
    bundle := ⟨some config, some (m.next config known),
      some ⟨m.next config known, config.connectString⟩⟩ }

variable (m : Memory κ) (stage : Stage) (config : Config) (known : κ) {number other : Nat}

@[simp]
theorem stage_withStage_self : (m.withStage number stage).stage number = stage :=
  Function.update_self ..

theorem stage_withStage_of_ne (h : other ≠ number) :
    (m.withStage number stage).stage other = m.stage other := Function.update_of_ne h ..

/-- A client that was just made is latent. -/
theorem stage_run : (m.run config known).stage m.made = .latent := Function.update_self ..

theorem stage_run_of_ne (h : number ≠ m.made) :
    (m.run config known).stage number = m.stage number := Function.update_of_ne h ..

/-- The number of the client that the bundle holds. -/
def current (m : Memory κ) : Option Nat := m.bundle.managed.map (·.number)

end Memory

/-- The world of a bundle: everything else, what happened to its clients, and what is kept. -/
abbrev World (σ κ : Type) := (σ × List Happening) × Memory κ

variable {σ κ : Type}

/-- The world in which the bundle was never run. -/
def fresh (s : σ) : World σ κ := ((s, []), .unused)

/-- A client, with what it is asked to do written down under its number. -/
def numbered (client : Client σ) (number : Nat) : Client (World σ κ) where
  describe := client.describe
  state := client.state.inShared.inShared
  isConnected := client.isConnected.inShared.inShared
  keeperState := client.keeperState.inShared.inShared
  start timeout := ((client.start timeout).logged (.started number)).inShared
  stop := (client.stop.logged (.stopped number)).inShared
  close := (client.close.logged (.closed number)).inShared
  children path := ((client.children path).logged (.listed number path)).inShared
  listen := client.listen.inShared.inShared

/-- A maker whose clients are numbered. -/
def numbering (maker : Client.Maker σ κ) : Client.Maker (World σ κ) (ClientRef κ) where
  makeRetry policy := (maker.makeRetry policy).inShared.inShared
  makeClient options := do
    let known ← (maker.makeClient options).inShared.inShared
    let number ← Run.look fun w => w.2.made
    Run.change fun w => ((w.1.1, w.1.2 ++ [.made number]), { w.2 with made := number + 1 })
    pure ⟨number, known⟩
  client ref := numbered (maker.client ref.known) ref.number

/-- The bundle whose clients come from a maker. -/
def ofMaker (maker : Client.Maker σ κ) : Bundle (World σ κ) (ClientRef κ) (ManagedRef κ) where
  maker := numbering maker
  adopt client connectionTimeout := do
    Run.change fun w => (w.1, w.2.adopt ⟨client, connectionTimeout⟩)
    pure ⟨client, connectionTimeout⟩
  managed ref :=
    ⟨numbered (maker.client ref.known) ref.number, ref.connectionTimeout,
      ⟨fun w => w.2.stage ref.number, fun stage w => (w.1, w.2.withStage ref.number stage)⟩⟩
  state := ⟨fun w => w.2.bundle, fun bundle w => (w.1, { w.2 with bundle })⟩

/-! ## Managed clients -/

/-- What is written down of a start that fails. A client that fails to show its state is not even
asked to start. -/
inductive Futile (client : Client σ) (number : Nat) : List Happening → Prop
  | unasked : ¬ client.Readable → Futile client number []
  | failed (fault : Fault) : Futile client number [.started number (.error fault)]

/-- How something ends that shows the state of the client at last, if all else went well. -/
def Shown {α : Type} (client : Client σ) (a : α) (outcome : Except Fault α) : Prop :=
  outcome = .ok a ∨ ¬ client.Readable ∧ ∃ fault, outcome = .error fault

/-- What starting a managed client comes to. -/
inductive Began (client : Client σ) (number : Nat) (w : World σ κ) :
    Except Fault Unit → World σ κ → Prop
  | idle : w.2.stage number ≠ .latent → Began client number w (.ok ()) w
  | futile {tried : List Happening} {fault : Fault} {s : σ} : w.2.stage number = .latent →
      Futile client number tried → Began client number w (.error fault) ((s, w.1.2 ++ tried), w.2)
  | started {outcome : Except Fault Unit} {s : σ} : w.2.stage number = .latent →
      Shown client () outcome →
      Began client number w outcome
        ((s, w.1.2 ++ [.started number (.ok ())]), w.2.withStage number .started)

/-- What stopping a managed client comes to. -/
inductive Ended (client : Client σ) (number : Nat) (w : World σ κ) :
    Except Fault Unit → World σ κ → Prop
  | unstopped {fault : Fault} {s : σ} : ¬ client.Stops →
      Ended client number w (.error fault) ((s, w.1.2 ++ [.stopped number (.error fault)]), w.2)
  | unclosed {fault : Fault} {s : σ} : ¬ client.Stops →
      Ended client number w (.error fault)
        ((s, w.1.2 ++ [.stopped number (.ok ()), .closed number (.error fault)]), w.2)
  | stopped {s : σ} :
      Ended client number w (.ok ())
        ((s, w.1.2 ++ [.stopped number (.ok ()), .closed number (.ok ())]),
          w.2.withStage number .stopped)

theorem not_readable {client : Client σ} {s t : σ} {fault : Fault}
    (h : client.state s = (.error fault, t)) : ¬ client.Readable := fun hread => by
  obtain ⟨v, u, hu⟩ := hread s
  rw [h] at hu
  cases hu

section Operations

variable [Journal σ] (maker : Client.Maker σ κ) (ref : ManagedRef κ) (w : World σ κ)

omit [Journal σ] in
theorem state_apply {answer : Except Fault Value} {s : σ}
    (h : (maker.client ref.known).state w.1.1 = (answer, s)) :
    ((ofMaker maker).managed ref).client.state w = (answer, (s, w.1.2), w.2) :=
  Run.inShared_of (Run.inShared_of h w.1.2) w.2

/-- **A start of a managed client.** -/
theorem start_began : Began (maker.client ref.known) ref.number w
    (((ofMaker maker).managed ref).start w).1 (((ofMaker maker).managed ref).start w).2 := by
  unfold Managed.start
  rw [Slot.get_bind_apply]
  by_cases hlatent : ((ofMaker maker).managed ref).stage.read w = .latent
  · rw [if_pos hlatent]
    rcases hbefore : (maker.client ref.known).state w.1.1 with ⟨before, s⟩
    have hstate := state_apply maker ref w hbefore
    cases before with
    | error fault =>
      rw [Run.bind_error _ hstate]
      rw [← List.append_nil w.1.2]
      exact .futile hlatent (.unasked (not_readable hbefore))
    | ok before =>
      rw [Run.bind_ok _ hstate, Run.note_bind_apply]
      generalize Entry.mk _ _ _ _ = entry
      rcases hanswer : (maker.client ref.known).start ref.connectionTimeout
        (Journal.record entry s) with ⟨answer, t⟩
      have hstart : ((ofMaker maker).managed ref).client.start
          ((ofMaker maker).managed ref).connectionTimeout
          (Journal.record entry ((s, w.1.2), w.2))
          = (answer, (t, w.1.2 ++ [.started ref.number answer]), w.2) :=
        Run.inShared_of (Run.logged_of hanswer (Happening.started ref.number) w.1.2) w.2
      cases answer with
      | error fault =>
        rw [Run.bind_error _ hstart]
        exact .futile hlatent (.failed fault)
      | ok _ =>
        rw [Run.bind_ok _ hstart, Slot.set_bind_apply]
        rcases hafter : (maker.client ref.known).state t with ⟨after, u⟩
        have hstate' := state_apply maker ref (((ofMaker maker).managed ref).stage.write .started
          ((t, w.1.2 ++ [.started ref.number (.ok ())]), w.2)) hafter
        cases after with
        | error fault =>
          rw [Run.bind_error _ hstate']
          exact .started hlatent (.inr ⟨not_readable hafter, fault, rfl⟩)
        | ok after =>
          rw [Run.bind_ok _ hstate']
          exact .started hlatent (.inl rfl)
  · rw [if_neg hlatent]
    exact .idle hlatent

omit [Journal σ] in
/-- Showing a managed client is looking at the state of its client. -/
theorem describe_shown :
    (∃ text s, ((ofMaker maker).managed ref).describe w = (.ok text, (s, w.1.2), w.2)) ∨
      ¬ (maker.client ref.known).Readable ∧
        ∃ fault s, ((ofMaker maker).managed ref).describe w = (.error fault, (s, w.1.2), w.2) := by
  unfold Managed.describe
  rw [Slot.get_bind_apply]
  rcases hstate : (maker.client ref.known).state w.1.1 with ⟨answer, s⟩
  have hstate' := state_apply maker ref w hstate
  cases answer with
  | error fault => exact .inr ⟨not_readable hstate, fault, s, Run.bind_error _ hstate'⟩
  | ok state => exact .inl ⟨_, s, Run.bind_ok _ hstate'⟩

/-- **A stop of a managed client.** -/
theorem stop_ended : Ended (maker.client ref.known) ref.number w
    (((ofMaker maker).managed ref).stop w).1 (((ofMaker maker).managed ref).stop w).2 := by
  unfold Managed.stop
  rw [Run.note_bind_apply]
  generalize Entry.mk _ _ _ _ = entry
  rcases hanswer : (maker.client ref.known).stop (Journal.record entry w.1.1) with ⟨answer, s⟩
  have hstop : ((ofMaker maker).managed ref).client.stop (Journal.record entry w)
      = (answer, (s, w.1.2 ++ [.stopped ref.number answer]), w.2) :=
    Run.inShared_of (Run.logged_of hanswer (Happening.stopped ref.number) w.1.2) w.2
  cases answer with
  | error fault =>
    rw [Run.bind_error _ hstop]
    refine .unstopped fun hstops => ?_
    obtain ⟨t, ht⟩ := hstops.1 (Journal.record entry w.1.1)
    rw [hanswer] at ht
    cases ht
  | ok _ =>
    rw [Run.bind_ok _ hstop]
    rcases hanswer' : (maker.client ref.known).close s with ⟨answer', t⟩
    have hclose : ((ofMaker maker).managed ref).client.close
        ((s, w.1.2 ++ [.stopped ref.number (.ok ())]), w.2)
        = (answer', (t, w.1.2 ++ [.stopped ref.number (.ok ())] ++ [.closed ref.number answer']),
          w.2) :=
      Run.inShared_of (Run.logged_of hanswer' (Happening.closed ref.number)
        (w.1.2 ++ [Happening.stopped ref.number (.ok ())])) w.2
    rw [List.append_assoc] at hclose
    cases answer' with
    | error fault =>
      rw [Run.bind_error _ hclose]
      refine .unclosed fun hstops => ?_
      obtain ⟨u, hu⟩ := hstops.2 s
      rw [hanswer'] at hu
      cases hu
    | ok _ =>
      rw [Run.bind_ok _ hclose]
      exact .stopped

/-! ## Runs and stops of a bundle -/

/-- The maker is asked for a client as if nothing were written down. -/
theorem create_apply (config : Config) : Client.create (ofMaker maker).maker config w
    = match Client.create maker config w.1.1 with
      | (.ok known, s) => (.ok ⟨w.2.made, known⟩,
          ((s, w.1.2 ++ [.made w.2.made]), { w.2 with made := w.2.made + 1 }))
      | (.error fault, s) => (.error fault, ((s, w.1.2), w.2)) := by
  unfold Client.create
  rw [Run.note_bind_apply, Run.note_bind_apply]
  generalize Entry.mk _ _ _ _ = entry
  have hretry {answer : Except Fault String} (v : World σ κ) {s : σ}
      (h : maker.makeRetry (.ofConfig config) v.1.1 = (answer, s)) :
      (ofMaker maker).maker.makeRetry (.ofConfig config) v = (answer, (s, v.1.2), v.2) :=
    Run.inShared_of (Run.inShared_of h v.1.2) v.2
  rcases hfirst : maker.makeRetry (.ofConfig config) (Journal.record entry w.1.1) with ⟨first, s⟩
  have hfirst' := hretry (Journal.record entry w) hfirst
  cases first with
  | error fault =>
    rw [Run.bind_error _ hfirst, Run.bind_error _ hfirst']
    rfl
  | ok first =>
    rw [Run.bind_ok _ hfirst, Run.bind_ok _ hfirst']
    rcases hsecond : maker.makeRetry (.ofConfig config) s with ⟨second, t⟩
    have hsecond' := hretry ((s, w.1.2), w.2) hsecond
    cases second with
    | error fault => exact (Run.bind_error _ hsecond').trans (by rw [Run.bind_error _ hsecond])
    | ok second =>
      refine (Run.bind_ok _ hsecond').trans ?_
      rw [Run.bind_ok _ hsecond]
      generalize Client.Options.mk _ _ _ _ = options
      rcases hmade : maker.makeClient options t with ⟨made, u⟩
      have hclient := Run.inShared_of (Run.inShared_of hmade w.1.2) w.2
      cases made with
      | error fault => exact Run.bind_error _ hclient
      | ok known => exact Run.bind_ok _ hclient

theorem create_of_error {config : Config} {fault : Fault} {s : σ}
    (h : Client.create maker config w.1.1 = (.error fault, s)) :
    Client.create (ofMaker maker).maker config w = (.error fault, (s, w.1.2), w.2) := by
  rw [create_apply, h]

theorem create_of_ok {config : Config} {known : κ} {s : σ}
    (h : Client.create maker config w.1.1 = (.ok known, s)) :
    Client.create (ofMaker maker).maker config w = (.ok ⟨w.2.made, known⟩,
      (s, w.1.2 ++ [.made w.2.made]), { w.2 with made := w.2.made + 1 }) := by
  rw [create_apply, h]

/-- What running a bundle comes to. -/
inductive Ran (maker : Client.Maker σ κ) (config : Config) (w : World σ κ) :
    Except Fault (ManagedRef κ) → World σ κ → Prop
  | unmade {fault : Fault} {s : σ} : (Client.create maker config w.1.1).1 = .error fault →
      Ran maker config w (.error fault)
        ((s, w.1.2), { w.2 with bundle := { w.2.bundle with config := some config } })
  | futile {known : κ} {tried : List Happening} {fault : Fault} {s : σ} :
      (Client.create maker config w.1.1).1 = .ok known →
      Futile (maker.client known) w.2.made tried →
      Ran maker config w (.error fault) ((s, w.1.2 ++ .made w.2.made :: tried), w.2.run config known)
  | started {known : κ} {outcome : Except Fault (ManagedRef κ)} {s : σ} :
      (Client.create maker config w.1.1).1 = .ok known →
      Shown (maker.client known) (w.2.next config known) outcome →
      Ran maker config w outcome
        ((s, w.1.2 ++ [.made w.2.made, .started w.2.made (.ok ())]),
          (w.2.run config known).withStage w.2.made .started)

/-- **A run of a bundle.** -/
theorem run_ran (config : Config) :
    Ran maker config w ((ofMaker maker).run config w).1 ((ofMaker maker).run config w).2 := by
  unfold Bundle.run
  rw [Slot.get_bind_apply, Slot.set_bind_apply]
  rcases hcreate : Client.create maker config w.1.1 with ⟨made, s⟩
  have hmade := congrArg Prod.fst hcreate
  cases made with
  | error fault =>
    rw [Run.bind_error _ (create_of_error maker ((ofMaker maker).state.write
      { (ofMaker maker).state.read w with config := some config } w) hcreate)]
    exact .unmade hmade
  | ok known =>
    rw [Run.bind_ok _ (create_of_ok maker ((ofMaker maker).state.write
      { (ofMaker maker).state.read w with config := some config } w) hcreate)]
    change (fun r => Ran maker config w r.1 r.2)
      ((((ofMaker maker).managed (w.2.next config known)).start.recover Fault.isOrdinary
        (fun fault => .fail (Problem.startFailed.causedBy fault)) >>= _)
        ((s, w.1.2 ++ [.made w.2.made]), w.2.run config known))
    have hbegan := start_began maker (w.2.next config known)
      ((s, w.1.2 ++ [.made w.2.made]), w.2.run config known)
    rcases hstart : ((ofMaker maker).managed (w.2.next config known)).start
      ((s, w.1.2 ++ [.made w.2.made]), w.2.run config known) with ⟨answer, v⟩
    rw [hstart] at hbegan
    cases hbegan with
    | idle hstage => exact absurd (Memory.stage_run w.2 config known) hstage
    | futile _ htried =>
      obtain ⟨fault, hrecover⟩ := Run.recover_fail_of_error Fault.isOrdinary _ hstart
      rw [Run.bind_error _ hrecover, List.append_assoc]
      exact .futile hmade htried
    | @started _ t _ hshown =>
      rw [List.append_assoc] at hstart
      obtain rfl | ⟨hread, fault, rfl⟩ := hshown
      · rw [Run.bind_ok _ (Run.recover_of_ok hstart)]
        obtain ⟨text, u, hshow⟩ | ⟨hread, fault, u, hshow⟩ := describe_shown maker
          (w.2.next config known) ((t, w.1.2 ++ [.made w.2.made, .started w.2.made (.ok ())]),
            (w.2.run config known).withStage w.2.made .started)
        · exact Run.bind_ok _ hshow ▸ .started hmade (.inl rfl)
        · exact Run.bind_error _ hshow ▸ .started hmade (.inr ⟨hread, fault, rfl⟩)
      · obtain ⟨fault', hrecover⟩ := Run.recover_fail_of_error Fault.isOrdinary _ hstart
        rw [Run.bind_error _ hrecover]
        exact .started hmade (.inr ⟨hread, fault', rfl⟩)

/-- **A stop of a bundle.** It stops the client that the bundle holds, if there is one. -/
theorem stop_spec :
    (w.2.bundle.managed = none ∧ (ofMaker maker).stop w = (.ok (), w)) ∨
      ∃ ref, w.2.bundle.managed = some ref ∧ Ended (maker.client ref.known) ref.number w
        ((ofMaker maker).stop w).1 ((ofMaker maker).stop w).2 := by
  unfold Bundle.stop
  rw [Slot.get_bind_apply]
  cases h : w.2.bundle.managed with
  | none =>
    have hread : ((ofMaker maker).state.read w).managed = none := h
    rw [hread]
    exact .inl ⟨rfl, rfl⟩
  | some ref =>
    have hread : ((ofMaker maker).state.read w).managed = some ref := h
    rw [hread]
    exact .inr ⟨ref, rfl, stop_ended maker ref w⟩

end Operations

/-! ## Clients that fail to start at first -/

/-- A maker whose clients fail to start some times, and do everything else that they are asked to.
The world is the journal and how many starts are still to fail. -/
def hesitant : Client.Maker (List Entry × Nat) Unit where
  makeRetry _ := pure "retry"
  makeClient _ := pure ()
  client _ :=
    { describe := "client"
      state := pure (.text Client.connected)
      isConnected := pure (.bool true)
      keeperState := pure (.text Client.connected)
      start _ := fun s =>
        (if s.2 = 0 then .ok () else .error (.simple .connectionLoss none), (s.1, s.2 - 1))
      stop := pure ()
      close := pure ()
      children _ := pure (.list [])
      listen := pure () }

theorem hesitant_stops (known : Unit) : (hesitant.client known).Stops :=
  ⟨fun s => ⟨s, rfl⟩, fun s => ⟨s, rfl⟩⟩

theorem hesitant_readable (known : Unit) : (hesitant.client known).Readable :=
  fun s => ⟨_, s, rfl⟩

end Bundle

end TimedLock

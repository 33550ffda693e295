import TimedLock.Client.Managed
import TimedLock.Proofs.Run

/-!
# The life of a managed client

**Theorem (`lifecycle`).** Take any sequence of starts and stops of a managed client, whatever the
client answers and wherever it fails. The client is started once at the most. Its stage says what
happened to it: started, if it was started and no stop has completed since; stopped, if some stop has
completed; latent otherwise. A stage is never taken back, and once it is not latent any more, the
client is not asked to start again. While it is latent, each start asks it once, and leaves it latent
where it fails, so that the next start tries again.

Each operation comes to one of a few things (`Began`, `Ended`), and the theorem follows from what
these do to the stage and to the list of what was asked of the client.
-/

namespace TimedLock

/-! ## What is written down -/

/-- What a client was asked to do, and how that ended. -/
inductive Contact
  | started (answer : Except Fault Unit)
  | stopped (answer : Except Fault Unit)
  | closed (answer : Except Fault Unit)

/-- Whether the client was asked to start. -/
def Contact.isStart : Contact → Bool
  | .started _ => true
  | _ => false

/-- Whether the client was started. -/
def Contact.isSuccess : Contact → Bool
  | .started answer => answer.isOk
  | _ => false

namespace Client

variable {σ β : Type}

/-- The client, with its starts, stops and closings written down. -/
def recorded (client : Client σ) : Client (σ × List Contact) where
  describe := client.describe
  state := client.state.inShared
  isConnected := client.isConnected.inShared
  keeperState := client.keeperState.inShared
  start timeout := (client.start timeout).logged .started
  stop := client.stop.logged .stopped
  close := client.close.logged .closed
  children path := (client.children path).inShared
  listen := client.listen.inShared

/-- The same client in a world with a private part. -/
def shared (client : Client σ) : Client (σ × β) where
  describe := client.describe
  state := client.state.inShared
  isConnected := client.isConnected.inShared
  keeperState := client.keeperState.inShared
  start timeout := (client.start timeout).inShared
  stop := client.stop.inShared
  close := client.close.inShared
  children path := (client.children path).inShared
  listen := client.listen.inShared

/-- The state of the client can be read at any time. -/
def Readable (client : Client σ) : Prop := ∀ s, ∃ v t, client.state s = (.ok v, t)

end Client

/-- How far along its life a stage is. -/
def Stage.rank : Stage → Nat
  | .latent => 0
  | .started => 1
  | .stopped => 2

namespace Managed

/-- The world of a managed client: everything else, what the client was asked to do, and the stage. -/
abbrev World (σ : Type) := (σ × List Contact) × Stage

variable {σ : Type}

/-- A client that is managed. -/
def ofClient (client : Client σ) (timeout : Value) : Managed (World σ) :=
  ⟨client.recorded.shared, timeout, .ofPrivate⟩

/-- The world in which the client was not asked to do anything. -/
def fresh (s : σ) : World σ := ((s, []), .latent)

/-- The starts that were asked of the client. -/
def starts (w : World σ) : List Contact := w.1.2.filter Contact.isStart

/-- How often the client was started. -/
def successes (w : World σ) : Nat := w.1.2.countP Contact.isSuccess

/-- What can be done with a managed client. -/
inductive Use
  | start
  | stop
deriving DecidableEq, Repr

/-- What a use does. It does not matter which thread does it. -/
def perform {ω : Type} [Journal ω] (managed : Managed ω) : Use → Run ω Unit
  | .start => managed.start
  | .stop => managed.stop

/-! ## What an operation comes to -/

/-- What a start comes to. -/
inductive Began (w : World σ) : Except Fault Unit → World σ → Prop
  | idle : w.2 ≠ .latent → Began w (.ok ()) w
  | failed {fault : Fault} {v : World σ} : w.2 = .latent → v.2 = .latent →
      v.1.2 = w.1.2 ++ [.started (.error fault)] → Began w (.error fault) v
  | started {v : World σ} : w.2 = .latent → v.2 = .started →
      v.1.2 = w.1.2 ++ [.started (.ok ())] → Began w (.ok ()) v

/-- What a stop comes to. -/
inductive Ended (w : World σ) : Except Fault Unit → World σ → Prop
  | unstopped {fault : Fault} {v : World σ} : v.2 = w.2 →
      v.1.2 = w.1.2 ++ [.stopped (.error fault)] → Ended w (.error fault) v
  | unclosed {fault : Fault} {v : World σ} : v.2 = w.2 →
      v.1.2 = w.1.2 ++ [.stopped (.ok ()), .closed (.error fault)] → Ended w (.error fault) v
  | stopped {v : World σ} : v.2 = .stopped →
      v.1.2 = w.1.2 ++ [.stopped (.ok ()), .closed (.ok ())] → Ended w (.ok ()) v

variable {w v : World σ} {outcome : Except Fault Unit}

theorem starts_append {contacts : List Contact} (h : v.1.2 = w.1.2 ++ contacts) :
    starts v = starts w ++ contacts.filter Contact.isStart := by
  rw [starts, h, List.filter_append, starts]

theorem successes_append {contacts : List Contact} (h : v.1.2 = w.1.2 ++ contacts) :
    successes v = successes w + contacts.countP Contact.isSuccess := by
  rw [successes, h, List.countP_append, successes]

namespace Began

theorem rank_le (h : Began w outcome v) : w.2.rank ≤ v.2.rank := by
  cases h with
  | idle _ => exact Nat.le_refl _
  | failed hw _ _ => simp [hw, Stage.rank]
  | started hw _ _ => simp [hw, Stage.rank]

/-- A client that is not latent is not asked to start. -/
theorem starts_eq (h : Began w outcome v) (hw : w.2 ≠ .latent) : starts v = starts w := by
  cases h with
  | idle _ => rfl
  | failed hlatent _ _ => exact absurd hlatent hw
  | started hlatent _ _ => exact absurd hlatent hw

/-- A latent client is asked once, and the stage tells what it answered. -/
theorem of_latent (h : Began w outcome v) (hw : w.2 = .latent) :
    starts v = starts w ++ [.started outcome] ∧
      v.2 = if outcome.isOk then .started else .latent := by
  cases h with
  | idle hne => exact absurd hw hne
  | failed _ hv hcontacts => exact ⟨starts_append hcontacts, hv⟩
  | started _ hv hcontacts => exact ⟨starts_append hcontacts, hv⟩

end Began

namespace Ended

theorem rank_le (h : Ended w outcome v) : w.2.rank ≤ v.2.rank := by
  cases h with
  | unstopped hv _ => exact Nat.le_of_eq (congrArg Stage.rank hv.symm)
  | unclosed hv _ => exact Nat.le_of_eq (congrArg Stage.rank hv.symm)
  | stopped hv _ =>
    rw [hv]
    cases w.2 <;> decide

/-- A stop does not start the client. -/
theorem starts_eq (h : Ended w outcome v) : starts v = starts w := by
  cases h with
  | unstopped _ hcontacts => simpa [Contact.isStart] using starts_append hcontacts
  | unclosed _ hcontacts => simpa [Contact.isStart] using starts_append hcontacts
  | stopped _ hcontacts => simpa [Contact.isStart] using starts_append hcontacts

theorem successes_eq (h : Ended w outcome v) : successes v = successes w := by
  cases h with
  | unstopped _ hcontacts => simpa [Contact.isSuccess] using successes_append hcontacts
  | unclosed _ hcontacts => simpa [Contact.isSuccess] using successes_append hcontacts
  | stopped _ hcontacts => simpa [Contact.isSuccess] using successes_append hcontacts

end Ended

/-! ## What the stage tells -/

/-- What the stage tells about the operations so far. -/
structure Told (past : List (Use × Except Fault Unit)) (w : World σ) : Prop where
  once : successes w ≤ 1
  started : w.2 = .started ↔ successes w = 1 ∧ (.stop, .ok ()) ∉ past
  stopped : w.2 = .stopped ↔ (.stop, .ok ()) ∈ past

namespace Told

variable {past : List (Use × Except Fault Unit)}

theorem fresh (s : σ) : Told [] (fresh s) where
  once := Nat.zero_le 1
  started := by simp [Managed.fresh, successes]
  stopped := by simp [Managed.fresh]

/-- A latent client was never started, and no stop has completed. -/
theorem of_latent (h : Told past w) (hw : w.2 = .latent) :
    successes w = 0 ∧ (.stop, .ok ()) ∉ past := by
  have hstop : (Use.stop, .ok ()) ∉ past := by simp [← h.stopped, hw]
  have hne : successes w ≠ 1 := fun hone => by simpa [hw] using h.started.2 ⟨hone, hstop⟩
  have := h.once
  exact ⟨by omega, hstop⟩

/-- What an operation leaves as it was is told by the same operations and this one, unless this one
is a completed stop. -/
theorem congr (h : Told past w) (hstage : v.2 = w.2) (hcount : successes v = successes w)
    {op : Use × Except Fault Unit} (hop : op ≠ (.stop, .ok ())) : Told (past ++ [op]) v where
  once := hcount ▸ h.once
  started := by
    rw [hstage, hcount, h.started]
    simp [hop.symm]
  stopped := by
    rw [hstage, h.stopped]
    simp [hop.symm]

theorem of_began (h : Told past w) (hv : Began w outcome v) :
    Told (past ++ [(.start, outcome)]) v := by
  cases hv with
  | idle _ => exact h.congr rfl rfl nofun
  | failed hw hstage hcontacts =>
    refine h.congr (hstage.trans hw.symm) ?_ nofun
    simpa [Contact.isSuccess, Except.isOk, Except.toBool] using successes_append hcontacts
  | started hw hstage hcontacts =>
    obtain ⟨hcount, hstop⟩ := h.of_latent hw
    have hone : successes v = 1 := by
      rw [successes_append hcontacts, hcount]
      rfl
    exact ⟨Nat.le_of_eq hone, by simp [hstage, hone, hstop], by simp [hstage, hstop]⟩

theorem of_ended (h : Told past w) (hv : Ended w outcome v) :
    Told (past ++ [(.stop, outcome)]) v := by
  have hcount := hv.successes_eq
  cases hv with
  | unstopped hstage _ => exact h.congr hstage hcount nofun
  | unclosed hstage _ => exact h.congr hstage hcount nofun
  | stopped hstage _ => exact ⟨hcount ▸ h.once, by simp [hstage], by simp [hstage]⟩

end Told

/-! ## The operations -/

section Operations

variable [Journal σ] {client : Client σ} {timeout : Value} {past : List (Use × Except Fault Unit)}

theorem start_of_begun (h : w.2 ≠ .latent) : (ofClient client timeout).start w = (.ok (), w) := by
  unfold Managed.start
  rw [Slot.get_bind_apply]
  exact if_neg h ▸ rfl

omit [Journal σ] in
theorem state_apply (h : client.Readable) (timeout : Value) (w : World σ) :
    ∃ v t, (ofClient client timeout).client.state w = (.ok v, (t, w.1.2), w.2) := by
  obtain ⟨v, t, hv⟩ := h w.1.1
  exact ⟨v, t, Run.inShared_of (Run.inShared_of hv w.1.2) w.2⟩

/-- **A start.** -/
theorem start_began (h : client.Readable) (timeout : Value) (w : World σ) :
    Began w ((ofClient client timeout).start w).1 ((ofClient client timeout).start w).2 := by
  by_cases hlatent : w.2 = .latent
  · have hread : (ofClient client timeout).stage.read w = .latent := hlatent
    obtain ⟨before, t, hbefore⟩ := state_apply h timeout w
    unfold Managed.start
    rw [Slot.get_bind_apply, if_pos hread, Run.bind_ok _ hbefore, Run.note_bind_apply]
    generalize Entry.mk _ _ _ _ = entry
    rcases hanswer : client.start timeout (Journal.record entry t) with ⟨answer, u⟩
    have hstart : (ofClient client timeout).client.start (ofClient client timeout).connectionTimeout
        (Journal.record entry ((t, w.1.2), w.2))
        = (answer, (u, w.1.2 ++ [Contact.started answer]), w.2) :=
      Run.inShared_of (Run.logged_of hanswer Contact.started w.1.2) w.2
    cases answer with
    | error fault =>
      rw [Run.bind_error _ hstart]
      exact .failed hlatent hlatent rfl
    | ok _ =>
      rw [Run.bind_ok _ hstart, Slot.set_bind_apply]
      obtain ⟨after, t', hafter⟩ := state_apply h timeout
        ((ofClient client timeout).stage.write .started ((u, w.1.2 ++ [.started (.ok ())]), w.2))
      rw [Run.bind_ok _ hafter]
      exact .started hlatent rfl rfl
  · rw [start_of_begun hlatent]
    exact .idle hlatent

/-- **A stop.** -/
theorem stop_ended (client : Client σ) (timeout : Value) (w : World σ) :
    Ended w ((ofClient client timeout).stop w).1 ((ofClient client timeout).stop w).2 := by
  unfold Managed.stop
  rw [Run.note_bind_apply]
  generalize Entry.mk _ _ _ _ = entry
  rcases hanswer : client.stop (Journal.record entry w.1.1) with ⟨answer, t⟩
  have hstop : (ofClient client timeout).client.stop (Journal.record entry w)
      = (answer, (t, w.1.2 ++ [Contact.stopped answer]), w.2) :=
    Run.inShared_of (Run.logged_of hanswer Contact.stopped w.1.2) w.2
  cases answer with
  | error fault =>
    rw [Run.bind_error _ hstop]
    exact .unstopped rfl rfl
  | ok _ =>
    rw [Run.bind_ok _ hstop]
    rcases hanswer' : client.close t with ⟨answer', u⟩
    have hclose : (ofClient client timeout).client.close
        ((t, w.1.2 ++ [Contact.stopped (.ok ())]), w.2)
        = (answer', (u, w.1.2 ++ [.stopped (.ok ())] ++ [Contact.closed answer']), w.2) :=
      Run.inShared_of (x := client.close.logged Contact.closed)
        (Run.logged_of hanswer' Contact.closed (w.1.2 ++ [Contact.stopped (.ok ())])) w.2
    cases answer' with
    | error fault =>
      rw [Run.bind_error _ hclose]
      exact .unclosed rfl (List.append_assoc ..)
    | ok _ =>
      rw [Run.bind_ok _ hclose]
      exact .stopped rfl (List.append_assoc ..)

/-! ## Whole lives -/

theorem told (h : client.Readable) {s : σ}
    (hv : Trail (ofClient client timeout).perform past (fresh s) v) : Told past v := by
  refine hv.invariant (.fresh s) fun past w op hw => ?_
  cases op with
  | start => exact hw.of_began (start_began h timeout w)
  | stop => exact hw.of_ended (stop_ended client timeout w)

theorem rank_le_perform (h : client.Readable) (timeout : Value) (w : World σ) (op : Use) :
    w.2.rank ≤ ((ofClient client timeout).perform op w).2.2.rank := by
  cases op with
  | start => exact (start_began h timeout w).rank_le
  | stop => exact (stop_ended client timeout w).rank_le

theorem starts_perform (h : client.Readable) (timeout : Value) (hw : w.2 ≠ .latent) (op : Use) :
    starts ((ofClient client timeout).perform op w).2 = starts w := by
  cases op with
  | start => exact (start_began h timeout w).starts_eq hw
  | stop => exact (stop_ended client timeout w).starts_eq

/-- No stage is taken back, and nothing starts a client that is not latent any more. -/
theorem onwards (h : client.Readable) (hv : Trail (ofClient client timeout).perform past w v) :
    w.2.rank ≤ v.2.rank ∧ (w.2 ≠ .latent → starts v = starts w) := by
  refine hv.keeps (p := fun v => w.2.rank ≤ v.2.rank ∧ (w.2 ≠ .latent → starts v = starts w))
    ⟨Nat.le_refl _, fun _ => rfl⟩ fun u op hu => ?_
  refine ⟨Nat.le_trans hu.1 (rank_le_perform h timeout u op), fun hw => ?_⟩
  have hrank : u.2 ≠ .latent := by
    have := hu.1
    revert this hw
    cases w.2 <;> cases u.2 <;> decide
  rw [starts_perform h timeout hrank op, hu.2 hw]

/-- What a start and a stop do at some point of the life of a managed client. -/
structure Next (managed : Managed (World σ)) (w : World σ) : Prop where
  /-- A latent client is asked once, and the stage tells what it answered. -/
  tries : w.2 = .latent → starts (managed.start w).2 = starts w ++ [.started (managed.start w).1] ∧
    (managed.start w).2.2 = if (managed.start w).1.isOk then .started else .latent
  idles : w.2 ≠ .latent → managed.start w = (.ok (), w)
  stops : starts (managed.stop w).2 = starts w

theorem next (h : client.Readable) (timeout : Value) (w : World σ) :
    Next (ofClient client timeout) w where
  tries hw := (start_began h timeout w).of_latent hw
  idles hw := start_of_begun hw
  stops := (stop_ended client timeout w).starts_eq

/-- **The life of a managed client.** After any operations, the stage tells what they came to
(`Told`) and what the next one does (`Next`). From there on the stage never goes back, and a client
that was started, or of which a stop has completed, is not asked to start again. -/
theorem lifecycle (h : client.Readable) {s : σ}
    (hv : Trail (ofClient client timeout).perform past (fresh s) v) :
    Told past v ∧ Next (ofClient client timeout) v ∧
      ∀ more w, Trail (ofClient client timeout).perform more v w → v.2.rank ≤ w.2.rank ∧
        (0 < successes v ∨ (.stop, .ok ()) ∈ past → starts w = starts v) := by
  have htold := told h hv
  refine ⟨htold, next h timeout v, fun more w hw => ⟨(onwards h hw).1, fun hpast => ?_⟩⟩
  refine (onwards h hw).2 fun hlatent => ?_
  obtain ⟨hcount, hstop⟩ := htold.of_latent hlatent
  obtain hsuccess | hmem := hpast
  · exact absurd hcount (Nat.ne_of_gt hsuccess)
  · exact hstop hmem

/-! ## A client that cannot connect at first -/

/-- A client that fails to start the first time, and does everything else it is asked to. The world is
the journal and whether it was asked before. -/
def reluctant : Client (List Entry × Bool) where
  describe := "client"
  state := pure (.text "LOST")
  isConnected := pure (.bool false)
  keeperState := pure .null
  start _ := fun s =>
    (if s.2 then .ok () else .error (.simple .connectionLoss none), (s.1, true))
  stop := pure ()
  close := pure ()
  children _ := pure .null
  listen := pure ()

/-- The first start leaves the client latent, the second one starts it, and after a stop it is not
asked to start again. -/
theorem lifecycle_of_reluctant :
    let managed := ofClient reluctant defaultConnectionTimeout
    let failed := (managed.start (fresh ([], false))).2
    let started := (managed.start failed).2
    let stopped := (managed.stop started).2
    failed.2 = .latent ∧ started.2 = .started ∧ stopped.2 = .stopped ∧ successes stopped = 1 ∧
      ∀ more w, Trail managed.perform more stopped w → starts w = starts stopped := by
  have hreadable : reluctant.Readable := fun s => ⟨_, s, rfl⟩
  have hv : Trail (ofClient reluctant defaultConnectionTimeout).perform _ (fresh ([], false)) _ :=
    .snoc .stop (.snoc .start (.snoc .start (.refl _)))
  have h := lifecycle hreadable hv
  exact ⟨rfl, rfl, rfl, rfl, fun more w hw => (h.2.2 more w hw).2 (.inl Nat.one_pos)⟩

end Operations

end Managed

end TimedLock

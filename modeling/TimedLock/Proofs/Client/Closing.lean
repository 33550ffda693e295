import TimedLock.Proofs.Client.Lifecycle

/-!
# What closing a client comes to

Closing a client takes two calls: the client is asked to stop, and then to close.

**Theorem (`closes_iff_stops`).** Whoever stops a managed client, at whatever stage, asks the client to
stop, and then to close exactly if it did stop. Closing a client that may not have been started does
the same where its session is connected or suspended, and asks nothing of it in any other state.

So a client that fails to stop is never asked to close (`not_closes_of_jammed`).
-/

namespace TimedLock

namespace Contact

/-- From one list of contacts to a later one, the client was asked to stop and then to close, once
each. -/
def Closes (before after : List Contact) : Prop :=
  ∃ stopping closing, after = before ++ [.stopped stopping, .closed closing]

/-- The client was asked to stop, and to close exactly if it did stop. -/
def AsksToClose (before after : List Contact) : Prop :=
  ∃ stopping rest, after = before ++ .stopped stopping :: rest ∧
    (Closes before after ↔ stopping = .ok ())

variable {before : List Contact}

theorem asksToClose_of_failed (fault : Fault) :
    AsksToClose before (before ++ [.stopped (.error fault)]) := by
  refine ⟨_, [], rfl, ?_, nofun⟩
  rintro ⟨stopping, closing, h⟩
  cases List.append_cancel_left h

theorem asksToClose_of_stopped (closing : Except Fault Unit) :
    AsksToClose before (before ++ [.stopped (.ok ()), .closed closing]) :=
  ⟨_, _, rfl, fun _ => rfl, fun _ => ⟨_, closing, rfl⟩⟩

end Contact

/-! ## A managed client -/

/-- What a stop of a managed client asks of its client. -/
theorem Managed.Ended.asksToClose {σ : Type} {w v : Managed.World σ} {outcome : Except Fault Unit}
    (h : Managed.Ended w outcome v) : Contact.AsksToClose w.1.2 v.1.2 := by
  cases h with
  | unstopped _ hcontacts =>
    rw [hcontacts]
    exact Contact.asksToClose_of_failed _
  | unclosed _ hcontacts =>
    rw [hcontacts]
    exact Contact.asksToClose_of_stopped _
  | stopped _ hcontacts =>
    rw [hcontacts]
    exact Contact.asksToClose_of_stopped _

/-! ## A client that may not have been started -/

namespace Client

variable {σ : Type}

theorem isOpenState_iff {state : Value} :
    isOpenState state = true ↔ state = .text connected ∨ state = .text suspended := by
  cases state <;> simp [isOpenState, Value.isText]

/-- The session of the client is connected or suspended. -/
def IsOpen (client : Client σ) (s : σ) : Prop :=
  (client.state s).1 = .ok (.text connected) ∨ (client.state s).1 = .ok (.text suspended)

/-- What a stop and then a closing ask of the client. -/
theorem recorded_stop_close (client : Client σ) (w : σ × List Contact) :
    Contact.AsksToClose w.2
      ((do client.recorded.stop; client.recorded.close : Run (σ × List Contact) Unit) w).2.2 := by
  rcases hstop : client.stop w.1 with ⟨stopping, t⟩
  have hasked : client.recorded.stop w = (stopping, t, w.2 ++ [.stopped stopping]) :=
    Run.logged_of hstop Contact.stopped w.2
  cases stopping with
  | error fault =>
    rw [Run.bind_error _ hasked]
    exact Contact.asksToClose_of_failed fault
  | ok _ =>
    rw [Run.bind_ok _ hasked]
    show Contact.AsksToClose w.2 ((w.2 ++ [.stopped (.ok ())]) ++ [.closed (client.close t).1])
    rw [List.append_assoc]
    exact Contact.asksToClose_of_stopped _

variable [Journal σ]

theorem recorded_closeIfStarted (client : Client σ) (w : σ × List Contact) :
    client.IsOpen w.1 ∧ Contact.AsksToClose w.2 (client.recorded.closeIfStarted w).2.2 ∨
      ¬ client.IsOpen w.1 ∧ (client.recorded.closeIfStarted w).2.2 = w.2 := by
  rcases hstate : client.state w.1 with ⟨fault | state, t⟩
  · have hread : client.recorded.state w = (.error fault, t, w.2) := Run.inShared_of hstate w.2
    refine .inr ⟨by simp [IsOpen, hstate], ?_⟩
    unfold closeIfStarted
    rw [Run.bind_error _ hread]
  · have hread : client.recorded.state w = (.ok state, t, w.2) := Run.inShared_of hstate w.2
    have hopen : client.IsOpen w.1 ↔ isOpenState state = true := by
      simp [IsOpen, hstate, isOpenState_iff]
    rw [hopen]
    unfold closeIfStarted
    rw [Run.bind_ok _ hread]
    cases isOpenState state with
    | true =>
      rw [if_pos rfl, Run.note_bind_apply]
      exact .inl ⟨rfl, recorded_stop_close client (Journal.record _ t, w.2)⟩
    | false =>
      rw [if_neg Bool.false_ne_true]
      exact .inr ⟨Bool.false_ne_true, rfl⟩

/-! ## Both -/

/-- **What closing a client comes to**: for a managed client at any stage of its life, for a client
that may not have been started, and for one that may not even be there. -/
theorem closes_iff_stops (client : Client σ) (timeout : Value) :
    (∀ w : Managed.World σ,
      Contact.AsksToClose w.1.2 ((Managed.ofClient client timeout).stop w).2.1.2) ∧
    (∀ w : σ × List Contact,
      (client.IsOpen w.1 ∧ Contact.AsksToClose w.2 (client.recorded.closeIfStarted w).2.2 ∨
        ¬ client.IsOpen w.1 ∧ (client.recorded.closeIfStarted w).2.2 = w.2) ∧
      closeQuietly (some client.recorded) w = client.recorded.closeIfStarted w ∧
      closeQuietly none w = (.ok (), w)) :=
  ⟨fun w => (Managed.stop_ended client timeout w).asksToClose,
    fun w => ⟨recorded_closeIfStarted client w, rfl, rfl⟩⟩

/-- A client that is connected and cannot be stopped. The world is the journal. -/
def jammed : Client (List Entry) where
  describe := "client"
  state := pure (.text connected)
  isConnected := pure (.bool true)
  keeperState := pure (.text connected)
  start _ := pure ()
  stop := .fail (.simple .connectionLoss none)
  close := pure ()
  children _ := pure .null
  listen := pure ()

/-- A client that cannot be stopped is not asked to close, neither where it is managed and was started
nor by itself, though it is connected. -/
theorem not_closes_of_jammed :
    let managed := Managed.ofClient jammed Managed.defaultConnectionTimeout
    let started := (managed.start (Managed.fresh [])).2
    (∃ past, Trail managed.perform past (Managed.fresh []) started) ∧ started.2 = .started ∧
      ¬ Contact.Closes started.1.2 (managed.stop started).2.1.2 ∧ jammed.IsOpen [] ∧
      ¬ Contact.Closes [] (jammed.recorded.closeIfStarted ([], [])).2.2 := by
  refine ⟨⟨_, .snoc Managed.Use.start (.refl _)⟩, rfl, ?_, .inl rfl, ?_⟩
  · rintro ⟨stopping, closing, h⟩
    cases h
  · rintro ⟨stopping, closing, h⟩
    cases h

end Client

end TimedLock

import TimedLock.App.StartUp
import TimedLock.Proofs.Client.BundleSteps

/-!
# Starting the application

The application is made ready any number of times, with any settings.

**Theorem (`starts_once`).** However often it is made ready, in whatever order with stops of its
bundle, and wherever any of that fails, at most one client is made, at most one start of a client
succeeds, and the bundle is registered to be stopped at most once, directly after that start. What
is not enabled changes nothing. As long as no client was made, settings that are accepted make one
as soon as the maker of clients can.

**Theorem (`runs_iff`).** If the application was only ever made ready, and it returns from that once
more while it is enabled, then its client runs and is to be stopped at the end, unless the start of
a client failed before. After a start that failed, the bundle has a client that does not run, and
making the application ready returns without asking anything of it (`idle_after_failed_start`).

Both follow from what one call can do (`ready_readied`), which is to do nothing at all once the
bundle has a client.
-/

namespace TimedLock.App.StartUp

open TimedLock.Bundle

variable {σ κ : Type} [Journal σ]

/-! ## One call -/

/-- Has the bundle stopped at the end of the program. -/
def registerExit : Run (World σ κ) Unit :=
  Run.change fun w => ((w.1.1, w.1.2 ++ [.exitRegistered]), w.2)

/-- Makes the application ready. -/
def ready (maker : Client.Maker σ κ) (settings : Settings) : Run (World σ κ) Unit :=
  start (ofMaker maker) settings registerExit

/-- What making the application ready comes to. -/
inductive Readied (maker : Client.Maker σ κ) (settings : Settings) (w : World σ κ) :
    Except Fault Unit → World σ κ → Prop
  | disabled : settings.isEnabled.isTruthy = false → Readied maker settings w (.ok ()) w
  | idle : w.2.bundle.managed ≠ none → Readied maker settings w (.ok ()) w
  | rejected {fault : Fault} : w.2.bundle.managed = none →
      Config.ofSettings settings = .error fault → Readied maker settings w (.error fault) w
  | failed {config : Config} {fault : Fault} {v : World σ κ} : w.2.bundle.managed = none →
      Config.ofSettings settings = .ok config → Ran maker config w (.error fault) v →
      Readied maker settings w (.error fault) v
  | ran {config : Config} {ref : ManagedRef κ} {v : World σ κ} : w.2.bundle.managed = none →
      Config.ofSettings settings = .ok config → Ran maker config w (.ok ref) v →
      Readied maker settings w (.ok ()) ((v.1.1, v.1.2 ++ [.exitRegistered]), v.2)

section Calls

variable (maker : Client.Maker σ κ) (settings : Settings) (w : World σ κ)

theorem ready_of_disabled (h : settings.isEnabled.isTruthy = false) :
    ready maker settings w = (.ok (), w) := by
  unfold ready start
  rw [h, if_neg Bool.false_ne_true]
  rfl

theorem ready_of_some {ref : ManagedRef κ} (h : w.2.bundle.managed = some ref) :
    ready maker settings w = (.ok (), w) := by
  have hread : ((ofMaker maker).state.read w).managed = some ref := h
  unfold ready start
  split
  · rw [Slot.get_bind_apply, hread]
    rfl
  · rfl

/-- **A call that makes the application ready.** -/
theorem ready_readied :
    Readied maker settings w (ready maker settings w).1 (ready maker settings w).2 := by
  cases henabled : settings.isEnabled.isTruthy with
  | false =>
    rw [ready_of_disabled maker settings w henabled]
    exact .disabled henabled
  | true =>
    cases hmanaged : w.2.bundle.managed with
    | some ref =>
      rw [ready_of_some maker settings w hmanaged]
      exact .idle (by rw [hmanaged]; nofun)
    | none =>
      have hread : ((ofMaker maker).state.read w).managed = none := hmanaged
      unfold ready start
      rw [henabled, if_pos rfl, Slot.get_bind_apply, hread, Option.isNone_none, if_pos rfl]
      cases hconfig : Config.ofSettings settings with
      | error fault => exact .rejected hmanaged hconfig
      | ok config =>
        rw [Run.ofExcept_ok_bind]
        have hran := run_ran maker w config
        rcases hrun : (ofMaker maker).run config w with ⟨outcome, v⟩
        rw [hrun] at hran
        cases outcome with
        | error fault =>
          rw [Run.bind_error _ hrun]
          exact .failed hmanaged hconfig hran
        | ok ref =>
          rw [Run.bind_ok _ hrun]
          exact .ran hmanaged hconfig hran

end Calls

/-! ## At most one start-up -/

/-- What happens to the clients when the application starts up, as far as it gets. -/
inductive Opening (number : Nat) : List Happening → Prop
  | made : Opening number [.made number]
  | failed (fault : Fault) : Opening number [.made number, .started number (.error fault)]
  | started : Opening number [.made number, .started number (.ok ())]
  | registered : Opening number [.made number, .started number (.ok ()), .exitRegistered]

/-- Whether something happens to a client because it is stopped. -/
def isEnding : Happening → Bool
  | .stopped .. => true
  | .closed .. => true
  | _ => false

/-- What became of the application: nothing yet, or it started up as far as it got, and was stopped
some times. -/
inductive Course (w : World σ κ) : Prop
  | unused : w.2.bundle.managed = none → w.1.2 = [] → Course w
  | used {ref : ManagedRef κ} {opening endings : List Happening} :
      w.2.bundle.managed = some ref → w.1.2 = opening ++ endings → Opening ref.number opening →
      (∀ happening ∈ endings, isEnding happening = true) → Course w

/-- Whether a client was made. -/
def isMade : Happening → Bool
  | .made _ => true
  | _ => false

/-- Whether a client was started. -/
def isSuccess : Happening → Bool
  | .started _ answer => answer.isOk
  | _ => false

/-- Whether the bundle was registered to be stopped. -/
def isRegistration : Happening → Bool
  | .exitRegistered => true
  | _ => false

/-- What happens at most once, and in which order. -/
structure Once (past : List Happening) : Prop where
  made : past.countP isMade ≤ 1
  started : past.countP isSuccess ≤ 1
  registered : past.countP isRegistration ≤ 1
  directly : ∀ before, before ++ [.exitRegistered] <+: past →
    ∃ number, before = [.made number, .started number (.ok ())]

/-- What the next call does. -/
structure Permits (maker : Client.Maker σ κ) (w : World σ κ) (settings : Settings) : Prop where
  disabled : settings.isEnabled.isTruthy = false → ready maker settings w = (.ok (), w)
  /-- As long as there is no client, a call makes one if it gets as far as asking for one. -/
  free : (∀ number, .made number ∉ w.1.2) → settings.isEnabled.isTruthy = true →
    ∀ config, Config.ofSettings settings = .ok config →
      ((∃ number, .made number ∈ (ready maker settings w).2.1.2) ↔
        ∃ known, (Client.create maker config w.1.1).1 = .ok known)

omit [Journal σ] in
theorem Opening.of_futile {client : Client σ} {number : Nat} {tried : List Happening}
    (h : Futile client number tried) : Opening number (.made number :: tried) := by
  cases h with
  | unasked _ => exact .made
  | failed fault => exact .failed fault

theorem Opening.made_mem {number : Nat} {opening : List Happening} (h : Opening number opening) :
    .made number ∈ opening := by
  cases h <;> exact List.mem_cons_self

theorem not_prefix_of_not_mem {before past : List Happening} (h : .exitRegistered ∉ past) :
    ¬ before ++ [.exitRegistered] <+: past := fun hbefore =>
  h (hbefore.subset (List.mem_append_right _ List.mem_cons_self))

/-- Where nothing was registered, there is nothing to say about when. -/
theorem Once.of_not_registered {past : List Happening} (hmade : past.countP isMade ≤ 1)
    (hstarted : past.countP isSuccess ≤ 1) (h : .exitRegistered ∉ past) : Once past where
  made := hmade
  started := hstarted
  registered := by
    have hnone : past.countP isRegistration = 0 := by
      refine List.countP_eq_zero.2 fun happening hm => ?_
      cases happening <;> simp_all [isRegistration]
    omega
  directly _ hbefore := absurd hbefore (not_prefix_of_not_mem h)

theorem Opening.once {number : Nat} {opening : List Happening} (h : Opening number opening) :
    Once opening := by
  cases h with
  | made => exact .of_not_registered (Nat.le_refl 1) (Nat.zero_le 1) (by simp)
  | failed fault => exact .of_not_registered (Nat.le_refl 1) (Nat.zero_le 1) (by simp)
  | started => exact .of_not_registered (Nat.le_refl 1) (Nat.le_refl 1) (by simp)
  | registered =>
    refine ⟨Nat.le_refl 1, Nat.le_refl 1, Nat.le_refl 1, fun before h => ⟨number, ?_⟩⟩
    change before ++ [.exitRegistered] <+:
      [.made number, .started number (.ok ())] ++ [.exitRegistered] at h
    obtain heq | hbefore := List.prefix_concat_iff.1 h
    · exact (List.append_singleton_inj.1 heq).1
    · exact absurd hbefore (not_prefix_of_not_mem (by simp))

/-- What happens when a client is stopped does not count. -/
theorem not_counted {happening : Happening} (h : isEnding happening = true) :
    ¬ isMade happening = true ∧ ¬ isSuccess happening = true ∧
      ¬ isRegistration happening = true := by
  cases happening <;> simp_all [isEnding, isMade, isSuccess, isRegistration]

theorem countP_append_endings {past endings : List Happening} {counts : Happening → Bool}
    (h : ∀ happening ∈ endings, isEnding happening = true)
    (hcounts : ∀ happening, isEnding happening = true → ¬ counts happening = true) :
    (past ++ endings).countP counts = past.countP counts := by
  have hnone : endings.countP counts = 0 :=
    List.countP_eq_zero.2 fun happening hm => hcounts happening (h happening hm)
  rw [List.countP_append, hnone, Nat.add_zero]

theorem Once.append {past endings : List Happening} (hpast : Once past)
    (h : ∀ happening ∈ endings, isEnding happening = true) : Once (past ++ endings) where
  made := (countP_append_endings h fun _ hh => (not_counted hh).1).symm ▸ hpast.made
  started := (countP_append_endings h fun _ hh => (not_counted hh).2.1).symm ▸ hpast.started
  registered :=
    (countP_append_endings h fun _ hh => (not_counted hh).2.2).symm ▸ hpast.registered
  directly before hbefore := by
    have hnot : Happening.exitRegistered ∉ endings := fun hm => absurd (h _ hm) (by simp [isEnding])
    exact hpast.directly before ((concat_prefix_append hnot).1 hbefore)

namespace Course

variable {maker : Client.Maker σ κ} {settings : Settings} {w v : World σ κ}

omit [Journal σ]

theorem past_of_none (h : Course w) (hnone : w.2.bundle.managed = none) : w.1.2 = [] := by
  cases h with
  | unused _ hpast => exact hpast
  | used href => cases hnone.symm.trans href

theorem once (h : Course w) : Once w.1.2 := by
  cases h with
  | unused _ hpast =>
    rw [hpast]
    exact .of_not_registered (Nat.zero_le 1) (Nat.zero_le 1) List.not_mem_nil
  | used _ hpast hopening hendings =>
    rw [hpast]
    exact hopening.once.append hendings

/-- A client was made if there is one. -/
theorem managed_of_not_made (h : Course w) (hnot : ∀ number, .made number ∉ w.1.2) :
    w.2.bundle.managed = none := by
  cases h with
  | unused hnone _ => exact hnone
  | @used ref _ _ _ hpast hopening _ =>
    refine absurd ?_ (hnot ref.number)
    rw [hpast]
    exact List.mem_append_left _ hopening.made_mem

theorem of_opening {ref : ManagedRef κ} (href : w.2.bundle.managed = some ref)
    (h : Opening ref.number w.1.2) : Course w :=
  .used href (List.append_nil _).symm h nofun

end Course

/-! ## Whole histories -/

/-- What can be done with an application. -/
inductive Use
  | ready (settings : Settings)
  | stop

/-- What a use does. -/
def perform (maker : Client.Maker σ κ) : Use → Run (World σ κ) Unit
  | .ready settings => ready maker settings
  | .stop => (ofMaker maker).stop

namespace Course

variable {maker : Client.Maker σ κ} {settings : Settings} {w v : World σ κ}
  {outcome : Except Fault Unit}

theorem of_ran {config : Config} {outcome : Except Fault (ManagedRef κ)} (h : Course w)
    (hnone : w.2.bundle.managed = none) (hv : Ran maker config w outcome v) : Course v := by
  have hpast := h.past_of_none hnone
  cases hv with
  | unmade _ => exact .unused hnone hpast
  | futile _ htried =>
    rw [hpast]
    exact .of_opening rfl (.of_futile htried)
  | started _ _ =>
    rw [hpast]
    exact .of_opening rfl .started

theorem of_readied (h : Course w) (hv : Readied maker settings w outcome v) : Course v := by
  cases hv with
  | disabled _ => exact h
  | idle _ => exact h
  | rejected _ _ => exact h
  | failed hnone _ hran => exact h.of_ran hnone hran
  | ran hnone _ hran =>
    have hpast := h.past_of_none hnone
    cases hran with
    | started _ _ =>
      rw [hpast]
      exact .of_opening rfl .registered

omit [Journal σ] in
theorem of_ended {client : Client σ} {number : Nat} (h : Course w)
    (hheld : w.2.bundle.managed ≠ none) (hv : Ended client number w outcome v) : Course v := by
  have hmore : ∃ more, v.1.2 = w.1.2 ++ more ∧
      (∀ happening ∈ more, isEnding happening = true) ∧ v.2.bundle = w.2.bundle := by
    cases hv with
    | unstopped _ => exact ⟨_, rfl, by simp [isEnding], rfl⟩
    | unclosed _ => exact ⟨_, rfl, by simp [isEnding], rfl⟩
    | stopped => exact ⟨_, rfl, by simp [isEnding], rfl⟩
  obtain ⟨more, hpast', hmore, hbundle⟩ := hmore
  cases h with
  | unused hnone _ => exact absurd hnone hheld
  | used href hpast hopening hendings =>
    refine .used (hbundle ▸ href) (hpast'.trans ?_) hopening fun happening hm =>
      (List.mem_append.1 hm).elim (hendings happening) (hmore happening)
    rw [hpast, List.append_assoc]

theorem of_use (h : Course w) (maker : Client.Maker σ κ) (use : Use) :
    Course (perform maker use w).2 := by
  cases use with
  | ready settings => exact h.of_readied (ready_readied maker settings w)
  | stop =>
    change Course ((ofMaker maker).stop w).2
    obtain ⟨-, hstop⟩ | ⟨ref, href, hended⟩ := stop_spec maker w
    · rwa [hstop]
    · exact h.of_ended (by rw [href]; nofun) hended

/-- Where there is no client, a run makes one exactly if the maker of clients does. -/
theorem made_iff_of_ran {config : Config} {outcome : Except Fault (ManagedRef κ)} (h : Course w)
    (hnone : w.2.bundle.managed = none) (hv : Ran maker config w outcome v) :
    (∃ number, .made number ∈ v.1.2) ↔
      ∃ known, (Client.create maker config w.1.1).1 = .ok known := by
  have hpast := h.past_of_none hnone
  cases hv with
  | unmade hmade => simp [hmade, hpast]
  | futile hmade _ => exact iff_of_true ⟨w.2.made, by simp⟩ ⟨_, hmade⟩
  | started hmade _ => exact iff_of_true ⟨w.2.made, by simp⟩ ⟨_, hmade⟩

/-- So does a call that is enabled and whose settings are accepted. -/
theorem made_iff {config : Config} (h : Course w) (hnone : w.2.bundle.managed = none)
    (henabled : settings.isEnabled.isTruthy = true)
    (hconfig : Config.ofSettings settings = .ok config)
    (hv : Readied maker settings w outcome v) :
    (∃ number, .made number ∈ v.1.2) ↔
      ∃ known, (Client.create maker config w.1.1).1 = .ok known := by
  cases hv with
  | disabled hdisabled => cases henabled.symm.trans hdisabled
  | idle hheld => exact absurd hnone hheld
  | rejected _ hrejected => cases hconfig.symm.trans hrejected
  | failed _ hconfig' hran =>
    cases hconfig.symm.trans hconfig'
    exact h.made_iff_of_ran hnone hran
  | ran _ hconfig' hran =>
    cases hconfig.symm.trans hconfig'
    simpa using h.made_iff_of_ran hnone hran

end Course

/-- **At most one start-up.** -/
theorem starts_once {maker : Client.Maker σ κ} {past : List (Use × Except Fault Unit)} {s : σ}
    {w : World σ κ} (hv : Trail (perform maker) past (fresh s) w) :
    Once w.1.2 ∧ ∀ settings, Permits maker w settings := by
  have h : Course w := hv.keeps (.unused rfl rfl) fun _ use hw => hw.of_use maker use
  refine ⟨h.once, fun settings => ⟨ready_of_disabled maker settings w, ?_⟩⟩
  intro hnot henabled config hconfig
  exact h.made_iff (h.managed_of_not_made hnot) henabled hconfig (ready_readied maker settings w)

/-- A call that is not enabled, one whose settings are rejected, and a stop before there is a client
leave the next call free to start the application up. The call after that and the stop after it do
not start anything up again. -/
theorem once_of_late_start :
    let disabled := (perform hesitant (.ready { Settings.unset with enabled := some (.bool false) })
      (fresh ([], 0))).2
    let rejected := (perform hesitant
      (.ready { Settings.unset with sessionTimeout := some (.int 0) }) disabled).2
    let stopped := (perform hesitant .stop rejected).2
    let started := (perform hesitant (.ready Settings.unset) stopped).2
    let again := (perform hesitant (.ready Settings.unset) started).2
    let ended := (perform hesitant .stop again).2
    (∃ number, .made number ∈ started.1.2) ∧ Once ended.1.2 ∧
      ended.1.2 = [.made 0, .started 0 (.ok ()), .exitRegistered, .stopped 0 (.ok ()),
        .closed 0 (.ok ())] := by
  have hstopped : Trail (perform hesitant) _ (fresh ([], 0)) _ :=
    .snoc .stop (.snoc (.ready { Settings.unset with sessionTimeout := some (.int 0) })
      (.snoc (.ready { Settings.unset with enabled := some (.bool false) }) (.refl _)))
  have hended := hstopped.snoc (.ready Settings.unset) |>.snoc (.ready Settings.unset) |>.snoc .stop
  have hfree := ((starts_once hstopped).2 Settings.unset).free nofun rfl _ rfl
  exact ⟨hfree.2 ⟨(), rfl⟩, (starts_once hended).1, rfl⟩

/-! ## A start that failed -/

/-- The client runs, and is to be stopped at the end. -/
def Runs (w : World σ κ) : Prop :=
  ∃ ref, w.2.bundle.managed = some ref ∧ w.2.stage ref.number = .started ∧
    .started ref.number (.ok ()) ∈ w.1.2 ∧ .exitRegistered ∈ w.1.2

/-- Where an application stands that is only ever made ready. -/
inductive Standing (w : World σ κ) : Prop
  | unused : w.2.bundle.managed = none → w.1.2 = [] → Standing w
  | runs : Runs w → (∀ number fault, .started number (.error fault) ∉ w.1.2) → Standing w
  /-- There is a client, and its start failed. -/
  | stranded {ref : ManagedRef κ} {fault : Fault} : w.2.bundle.managed = some ref →
      w.2.stage ref.number = .latent → .exitRegistered ∉ w.1.2 →
      .started ref.number (.error fault) ∈ w.1.2 → Standing w

namespace Standing

variable {maker : Client.Maker σ κ} {settings : Settings} {w v : World σ κ}
  {outcome : Except Fault Unit}

omit [Journal σ] in
theorem past_of_none (h : Standing w) (hnone : w.2.bundle.managed = none) : w.1.2 = [] := by
  cases h with
  | unused _ hpast => exact hpast
  | runs hruns _ =>
    obtain ⟨ref, href, -⟩ := hruns
    cases hnone.symm.trans href
  | stranded href => cases hnone.symm.trans href

/-- A first run that fails does so before there is a client, or when it starts the client. -/
theorem of_failed {config : Config} {fault : Fault}
    (hread : ∀ known, (maker.client known).Readable) (hnone : w.2.bundle.managed = none)
    (hpast : w.1.2 = []) (hv : Ran maker config w (.error fault) v) : Standing v := by
  cases hv with
  | unmade _ => exact .unused hnone hpast
  | futile _ htried =>
    rw [hpast]
    cases htried with
    | unasked hunread => exact absurd (hread _) hunread
    | failed fault => exact .stranded rfl (Memory.stage_run ..) (by simp) (.tail _ (.head _))
  | started _ hshown =>
    obtain hok | ⟨hunread, -⟩ := hshown
    · cases hok
    · exact absurd (hread _) hunread

/-- A first run that returns leaves a client that runs. -/
theorem runs_of_returned {config : Config} {ref : ManagedRef κ} (hpast : w.1.2 = [])
    (hv : Ran maker config w (.ok ref) v) :
    Runs (((v.1.1, v.1.2 ++ [.exitRegistered]), v.2) : World σ κ) ∧
      ∀ number fault, .started number (.error fault) ∉ v.1.2 := by
  cases hv with
  | started _ _ =>
    rw [hpast]
    exact ⟨⟨_, rfl, Memory.stage_withStage_self .., by simp [Memory.next], by simp⟩, by simp⟩

theorem of_readied (hread : ∀ known, (maker.client known).Readable) (h : Standing w)
    (hv : Readied maker settings w outcome v) : Standing v := by
  cases hv with
  | disabled _ => exact h
  | idle _ => exact h
  | rejected _ _ => exact h
  | failed hnone _ hran => exact of_failed hread hnone (h.past_of_none hnone) hran
  | ran hnone _ hran =>
    obtain ⟨hruns, hnot⟩ := runs_of_returned (h.past_of_none hnone) hran
    exact .runs hruns (by simpa using hnot)

end Standing

section Stranded

variable {maker : Client.Maker σ κ} {past : List (Settings × Except Fault Unit)} {s : σ}
  {w : World σ κ} {settings : Settings}

theorem standing (hread : ∀ known, (maker.client known).Readable)
    (hv : Trail (ready maker) past (fresh s) w) : Standing w :=
  hv.keeps (.unused rfl rfl) fun w settings hw =>
    hw.of_readied hread (ready_readied maker settings w)

/-- After a start that failed, a call returns and leaves everything as it was: the client is latent,
and nothing is to be stopped at the end. -/
theorem idle_after_failed_start {number : Nat} {fault : Fault}
    (hread : ∀ known, (maker.client known).Readable) (hv : Trail (ready maker) past (fresh s) w)
    (hfailed : .started number (.error fault) ∈ w.1.2) :
    (∃ ref, w.2.bundle.managed = some ref ∧ w.2.stage ref.number = .latent) ∧
      .exitRegistered ∉ w.1.2 ∧ ready maker settings w = (.ok (), w) := by
  cases standing hread hv with
  | unused _ hpast => simp [hpast] at hfailed
  | runs _ hnot => exact absurd hfailed (hnot number fault)
  | @stranded ref _ href hlatent hexit _ =>
    exact ⟨⟨ref, href, hlatent⟩, hexit, ready_of_some maker settings w href⟩

/-- **A start that failed.** -/
theorem runs_iff (hread : ∀ known, (maker.client known).Readable)
    (hv : Trail (ready maker) past (fresh s) w) (henabled : settings.isEnabled.isTruthy = true)
    (hok : (ready maker settings w).1 = .ok ()) :
    Runs (ready maker settings w).2 ↔ ∀ number fault, .started number (.error fault) ∉ w.1.2 := by
  cases standing hread hv with
  | unused hnone hpast =>
    have hreadied := ready_readied maker settings w
    rcases hcall : ready maker settings w with ⟨outcome, v⟩
    rw [hcall] at hreadied hok
    cases hok
    refine iff_of_true ?_ (by simp [hpast])
    cases hreadied with
    | disabled hdisabled => cases henabled.symm.trans hdisabled
    | idle hheld => exact absurd hnone hheld
    | ran _ _ hran => exact (Standing.runs_of_returned hpast hran).1
  | runs hruns hnot =>
    obtain ⟨ref, href, -⟩ := id hruns
    rw [ready_of_some maker settings w href]
    exact iff_of_true hruns hnot
  | stranded href hlatent _ hfailed =>
    rw [ready_of_some maker settings w href]
    refine iff_of_false ?_ fun hnot => hnot _ _ hfailed
    rintro ⟨ref, href', hstage, -⟩
    cases href.symm.trans href'
    cases hlatent.symm.trans hstage

/-- The client runs after a call that is enabled, where one before it was not. -/
theorem runs_after_disabled_call :
    let disabled := (ready hesitant { Settings.unset with enabled := some (.bool false) }
      (fresh ([], 0))).2
    disabled.2.bundle.managed.isNone = true ∧ Runs (ready hesitant Settings.unset disabled).2 := by
  have hv : Trail (ready hesitant) _ (fresh ([], 0)) _ :=
    .snoc { Settings.unset with enabled := some (.bool false) } (.refl _)
  exact ⟨rfl, (runs_iff hesitant_readable hv rfl rfl).2 nofun⟩

/-- Where the start of the client fails the first time, a second call returns, and the client does
not run. -/
theorem not_runs_after_failed_start :
    let failed := (ready hesitant Settings.unset (fresh ([], 1))).2
    (∀ known, (hesitant.client known).Readable) ∧
      (∃ past, Trail (ready hesitant) past (fresh ([], 1)) failed) ∧
      Settings.unset.isEnabled.isTruthy = true ∧
      (ready hesitant Settings.unset failed).1 = .ok () ∧
      ¬ Runs (ready hesitant Settings.unset failed).2 := by
  refine ⟨hesitant_readable, ⟨_, .snoc _ (.refl _)⟩, rfl, rfl, ?_⟩
  rintro ⟨ref, href, hstage, -⟩
  cases href
  cases hstage

end Stranded

end TimedLock.App.StartUp

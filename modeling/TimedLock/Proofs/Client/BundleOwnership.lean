import TimedLock.Proofs.Client.BundleSteps

/-!
# Clients that a bundle lets go of

A bundle knows one client, the one that it made last, and that is the one that it stops.

**Theorem (`owns_iff`).** Take any sequence of runs and stops of a bundle, wherever clients fail to
be made or to start, as long as they let themselves be stopped and closed. The bundle holds every
client that is running exactly if no client was made while another was running, and exactly if
stopping the bundle leaves no client running. A run on top of a client that is running is enough to
lose that client: nothing that the bundle does later stops it (`running_of_lost`).

What happened to the clients tells which of them are running (`running`), and each operation adds
little to it, so the theorem is one equivalence that every operation keeps (`Tracked`).
-/

namespace TimedLock.Bundle

/-! ## Running clients -/

/-- Whether a client is running after something happened. -/
def Happening.leaves (client : Nat) (runs : Bool) : Happening → Bool
  | .started number (.ok _) => runs || number == client
  | .closed number (.ok _) => runs && number != client
  | _ => runs

/-- Whether a client is running: it was started, and it was not stopped and closed since. -/
def running (client : Nat) (past : List Happening) : Bool :=
  past.foldl (Happening.leaves client) false

/-- Whenever a client was made, no other one was running. -/
def OneAtATime (past : List Happening) : Prop :=
  ∀ before number, before ++ [.made number] <+: past → ∀ client, running client before = false

variable {past more : List Happening} {client number : Nat}

theorem running_append (client : Nat) (past more : List Happening) :
    running client (past ++ more) = more.foldl (Happening.leaves client) (running client past) :=
  List.foldl_append

/-- Only making a client matters. -/
theorem oneAtATime_append (h : ∀ number, .made number ∉ more) :
    OneAtATime (past ++ more) ↔ OneAtATime past :=
  forall₂_congr fun _ number => imp_congr_left (concat_prefix_append (h number))

theorem oneAtATime_made (h : ∀ number, .made number ∉ more) :
    OneAtATime (past ++ .made number :: more)
      ↔ OneAtATime past ∧ ∀ client, running client past = false := by
  rw [List.append_cons, oneAtATime_append h]
  constructor
  · intro hpast
    refine ⟨fun before other hmade => ?_, hpast past number (List.prefix_refl _)⟩
    exact hpast before other (hmade.trans (List.prefix_append ..))
  · rintro ⟨hpast, hnone⟩ before other hmade
    obtain heq | hmade := List.prefix_concat_iff.1 hmade
    · obtain ⟨rfl, -⟩ := List.append_singleton_inj.1 heq
      exact hnone
    · exact hpast before other hmade

/-! ## What each operation keeps -/

variable {σ κ : Type}

/-- The bundle holds every client that is running. -/
def Owns (w : World σ κ) : Prop := ∀ client, running client w.1.2 = true → w.2.current = some client

/-- What a run does that makes a client. -/
structure Made (w v : World σ κ) : Prop where
  past : ∃ more, v.1.2 = w.1.2 ++ .made w.2.made :: more ∧ ∀ number, .made number ∉ more
  made : v.2.made = w.2.made + 1
  current : v.2.current = some w.2.made
  /-- The other clients are not touched. -/
  running_eq : ∀ client, client ≠ w.2.made → running client v.1.2 = running client w.1.2

/-- A run either makes a client, or nothing happens to any client. -/
theorem made_of_ran [Journal σ] {maker : Client.Maker σ κ} {config : Config} {w v : World σ κ}
    {outcome : Except Fault (ManagedRef κ)} (hv : Ran maker config w outcome v) :
    (v.1.2 = w.1.2 ∧ v.2.made = w.2.made ∧ v.2.current = w.2.current) ∨ Made w v := by
  cases hv with
  | unmade _ => exact .inl ⟨rfl, rfl, rfl⟩
  | futile _ htried =>
    refine .inr ⟨⟨_, rfl, ?_⟩, rfl, rfl, fun client _ => ?_⟩
    · cases htried <;> simp
    · cases htried <;> simp [running_append, Happening.leaves]
  | started _ _ =>
    refine .inr ⟨⟨_, rfl, by simp⟩, rfl, rfl, fun client hold => ?_⟩
    simp [running_append, Happening.leaves, hold.symm]

/-- What is true of the clients of a bundle at any time. -/
structure Tracked (w : World σ κ) : Prop where
  made : ∀ client, running client w.1.2 = true → client < w.2.made
  owned : Owns w ↔ OneAtATime w.1.2

namespace Tracked

variable {w v : World σ κ}

theorem fresh (s : σ) : Tracked (Bundle.fresh s : World σ κ) where
  made client h := by cases h
  owned := by
    refine iff_of_true (fun client h => by cases h) fun before number hmade => ?_
    cases before <;> cases List.prefix_nil.1 hmade

/-- The bundle holds the client that was just made and no other. So it holds all that are running
only if none was. -/
theorem of_made (h : Tracked w) (hv : Made w v) : Tracked v where
  made client hc := by
    have hmade := hv.made
    by_cases hnew : client = w.2.made
    · omega
    · have := h.made client (hv.running_eq client hnew ▸ hc)
      omega
  owned := by
    obtain ⟨more, hpast, hmore⟩ := hv.past
    rw [hpast, oneAtATime_made hmore]
    constructor
    · intro howns
      have hnone (client : Nat) : running client w.1.2 = false := by
        refine Bool.eq_false_iff.2 fun hc => ?_
        have hold : client ≠ w.2.made := Nat.ne_of_lt (h.made client hc)
        have hheld := howns client ((hv.running_eq client hold).trans hc)
        exact hold (Option.some.inj (hheld.symm.trans hv.current))
      exact ⟨h.owned.1 fun client hc => absurd hc (by simp [hnone]), hnone⟩
    · rintro ⟨-, hnone⟩ client hc
      by_cases hnew : client = w.2.made
      · rw [hv.current, hnew]
      · rw [hv.running_eq client hnew, hnone] at hc
        cases hc

theorem of_ran [Journal σ] {maker : Client.Maker σ κ} {config : Config}
    {outcome : Except Fault (ManagedRef κ)} (h : Tracked w) (hv : Ran maker config w outcome v) :
    Tracked v := by
  obtain ⟨hpast, hmade, hcurrent⟩ | hmade := made_of_ran hv
  · refine ⟨?_, ?_⟩
    · rw [hpast, hmade]
      exact h.made
    · unfold Owns
      rw [hpast, hcurrent]
      exact h.owned
  · exact h.of_made hmade

theorem of_stopped {s : σ} (h : Tracked w) (hheld : w.2.current = some number) :
    Tracked (((s, w.1.2 ++ [.stopped number (.ok ()), .closed number (.ok ())]),
      w.2.withStage number .stopped) : World σ κ) where
  made client hc := by
    simp only [running_append, List.foldl, Happening.leaves, Bool.and_eq_true] at hc
    exact h.made client hc.1
  owned := by
    rw [oneAtATime_append (by simp), ← h.owned]
    constructor
    · intro howns client hc
      by_cases hsame : number = client
      · rw [hheld, hsame]
      · exact howns client (by simp [running_append, Happening.leaves, hc, hsame])
    · intro howns client hc
      simp only [running_append, List.foldl, Happening.leaves, Bool.and_eq_true] at hc
      exact howns client hc.1

end Tracked

/-! ## Whole histories -/

/-- What can be done with a bundle. -/
inductive Use
  | run (config : Config)
  | stop

/-- What a use does. -/
def perform [Journal σ] (maker : Client.Maker σ κ) : Use → Run (World σ κ) Unit
  | .run config => ((ofMaker maker).run config).forget
  | .stop => (ofMaker maker).stop

section Histories

variable [Journal σ] {maker : Client.Maker σ κ} {w v : World σ κ}

/-- What stopping a bundle leaves, if clients let themselves be stopped and closed. -/
theorem stop_cases (hstops : ∀ known, (maker.client known).Stops) (w : World σ κ) :
    (w.2.current = none ∧ ((ofMaker maker).stop w).2 = w) ∨
      ∃ number s, w.2.current = some number ∧ ((ofMaker maker).stop w).2
        = ((s, w.1.2 ++ [.stopped number (.ok ()), .closed number (.ok ())]),
          w.2.withStage number .stopped) := by
  obtain ⟨hnone, hstop⟩ | ⟨ref, href, hended⟩ := stop_spec maker w
  · exact .inl ⟨by rw [Memory.current, hnone]; rfl, congrArg Prod.snd hstop⟩
  · refine .inr ⟨ref.number, ?_⟩
    rcases hstop : (ofMaker maker).stop w with ⟨outcome, v⟩
    rw [hstop] at hended
    cases hended with
    | unstopped hfails => exact absurd (hstops _) hfails
    | unclosed hfails => exact absurd (hstops _) hfails
    | stopped => exact ⟨_, by rw [Memory.current, href]; rfl, rfl⟩

theorem tracked_perform (hstops : ∀ known, (maker.client known).Stops) (hw : Tracked w) (op : Use) :
    Tracked (perform maker op w).2 := by
  cases op with
  | run config =>
    unfold perform
    rw [Run.forget_snd]
    exact hw.of_ran (run_ran maker w config)
  | stop =>
    obtain ⟨-, hstop⟩ | ⟨number, t, hheld, hstop⟩ := stop_cases hstops w
    · exact hstop.symm ▸ hw
    · exact hstop.symm ▸ hw.of_stopped hheld

theorem tracked {past : List (Use × Except Fault Unit)} {s : σ}
    (hstops : ∀ known, (maker.client known).Stops)
    (hv : Trail (perform maker) past (fresh s) w) : Tracked w :=
  hv.keeps (.fresh s) fun _ op hw => tracked_perform hstops hw op

/-- Stopping a bundle stops the client that it holds, and no other. -/
theorem running_stop (hstops : ∀ known, (maker.client known).Stops) (w : World σ κ)
    (client : Nat) : running client ((ofMaker maker).stop w).2.1.2
      = (running client w.1.2 && w.2.current != some client) := by
  obtain ⟨hheld, hstop⟩ | ⟨number, t, hheld, hstop⟩ := stop_cases hstops w
  · simp [hstop, hheld]
  · simp [hstop, hheld, running_append, Happening.leaves, bne]

/-- What stops a client that is running is a stop of the bundle that holds it. -/
theorem running_of_lost {more : List (Use × Except Fault Unit)} {client : Nat}
    (hstops : ∀ known, (maker.client known).Stops) (hw : Tracked w)
    (hrun : running client w.1.2 = true) (hlost : w.2.current ≠ some client)
    (hv : Trail (perform maker) more w v) :
    running client v.1.2 = true ∧ v.2.current ≠ some client := by
  refine (hv.keeps (p := fun v => Tracked v ∧ running client v.1.2 = true ∧
    v.2.current ≠ some client) ⟨hw, hrun, hlost⟩ fun u op ⟨hu, hrun, hlost⟩ => ?_).2
  refine ⟨tracked_perform hstops hu op, ?_⟩
  cases op with
  | run config =>
    unfold perform
    rw [Run.forget_snd]
    obtain ⟨hpast, -, hcurrent⟩ | hmade := made_of_ran (run_ran maker u config)
    · exact ⟨hpast ▸ hrun, hcurrent ▸ hlost⟩
    · have hold : client ≠ u.2.made := Nat.ne_of_lt (hu.made client hrun)
      refine ⟨(hmade.running_eq client hold).trans hrun, ?_⟩
      rw [hmade.current]
      exact fun h => hold (Option.some.inj h).symm
  | stop =>
    refine ⟨(running_stop hstops u client).trans ?_, ?_⟩
    · simpa [hrun] using hlost
    · obtain ⟨-, hstop⟩ | ⟨number, t, -, hstop⟩ := stop_cases hstops u <;>
        exact (congrArg (fun v => v.2.current) hstop).trans_ne hlost

/-- **Clients that a bundle lets go of.** -/
theorem owns_iff {past : List (Use × Except Fault Unit)} {s : σ}
    (hstops : ∀ known, (maker.client known).Stops)
    (hv : Trail (perform maker) past (fresh s) w) :
    (Owns w ↔ OneAtATime w.1.2) ∧
      (Owns w ↔ ∀ client, running client ((ofMaker maker).stop w).2.1.2 = false) := by
  refine ⟨(tracked hstops hv).owned, ?_⟩
  simp only [running_stop hstops, Bool.and_eq_false_imp, bne_eq_false_iff_eq]
  rfl

/-- A bundle that is stopped before it runs again holds its second client, and stopping it leaves
nothing running. -/
theorem owns_after_restart :
    let first := (perform hesitant (.run Config.defaults) (fresh ([], 0))).2
    let stopped := (perform hesitant .stop first).2
    let second := (perform hesitant (.run Config.defaults) stopped).2
    running 1 second.1.2 = true ∧ Owns second ∧ OneAtATime second.1.2 ∧
      ∀ client, running client ((ofMaker hesitant).stop second).2.1.2 = false := by
  have hv : Trail (perform hesitant) _ (fresh ([], 0)) _ :=
    .snoc (.run Config.defaults) (.snoc .stop (.snoc (.run Config.defaults) (.refl _)))
  have howns : Owns (perform hesitant (.run Config.defaults) (perform hesitant .stop
      (perform hesitant (.run Config.defaults) (fresh ([], 0))).2).2).2 := by
    rintro client hc
    change (((false || 0 == client) && 0 != client) || 1 == client) = true at hc
    change some 1 = some client
    cases h : (0 == client) <;> simp_all [bne]
  have h := owns_iff hesitant_stops hv
  exact ⟨rfl, howns, h.1.1 howns, h.2.1 howns⟩

/-- A bundle that runs a second time while its first client is running loses that client, and
stopping the bundle leaves it running. -/
theorem not_owns_of_second_run :
    let twice := (perform hesitant (.run Config.defaults)
      (perform hesitant (.run Config.defaults) (fresh ([], 0))).2).2
    (∀ known, (hesitant.client known).Stops) ∧
      (∃ past, Trail (perform hesitant) past (fresh ([], 0)) twice) ∧ ¬ Owns twice ∧
      running 0 ((ofMaker hesitant).stop twice).2.1.2 = true := by
  refine ⟨hesitant_stops, ⟨_, .snoc _ (.snoc _ (.refl _))⟩, fun howns => ?_, rfl⟩
  have hheld : some 1 = some 0 := howns 0 rfl
  cases hheld

end Histories

end TimedLock.Bundle

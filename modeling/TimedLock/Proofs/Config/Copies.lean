import TimedLock.Proofs.Config.Limits
import TimedLock.Proofs.Text.Reading

/-!
# Copies of configurations, and connect strings

Copying a configuration checks it again, and three places ask whether a connect string is blank: the
settings before they select it, the override before it is made, and the check. They all agree.

**Theorem (`connectString_never_refused`).** A copy of a configuration that exists is made, and is the
same. With another connect string it is made just if that one is not blank, and it then differs in
nothing else, so that the last of several overrides decides. The connect string that the settings
select is never blank and already trimmed. They fail as they would without any connect string, and
what is wrong with them is never the connect string.

The checks of the other fields do not look at the connect string (`check_setConnectString`).
-/

namespace TimedLock

/-! ## Faults of checks -/

section Checks

variable {α β : Type} {p : Problem} {refused : Except Fault Bool} {fault : Fault} {xs : List α}
  {check : α → Except Fault Unit}

theorem then_eq_error {x : Except Fault Unit} {y : Except Fault α}
    (h : (do x; y) = .error fault) : x = .error fault ∨ y = .error fault := by
  cases x with
  | error _ => exact .inl (congrArg Except.error (Except.error.inj h))
  | ok _ => exact .inr h

theorem exists_of_forM_eq_error (h : forM xs check = .error fault) :
    ∃ x ∈ xs, check x = .error fault := by
  induction xs with
  | nil => cases h
  | cons x rest ih =>
    rw [List.forM_cons] at h
    rcases then_eq_error h with hx | hrest
    · exact ⟨x, List.mem_cons_self, hx⟩
    · obtain ⟨y, hy, hfault⟩ := ih hrest
      exact ⟨y, List.mem_cons_of_mem x hy, hfault⟩

theorem Config.refuseIf_eq_error (h : Config.refuseIf refused p = .error fault) :
    refused = .error fault ∨ fault = p.fault := by
  cases refused with
  | error _ => exact .inl (congrArg Except.error (Except.error.inj h))
  | ok b =>
    cases b with
    | true => exact .inr (Except.error.inj h).symm
    | false => cases h

end Checks

section Comparisons

variable {v w : Value} {b : Config.Bound} {fault : Fault}

theorem Value.kind_of_before (h : v.before w = .error fault) : fault.kind = .badType := by
  unfold before at h
  split at h
  · cases h
  · exact congrArg Fault.kind (Except.error.inj h).symm

theorem Value.kind_of_atMost (h : v.atMost w = .error fault) : fault.kind = .badType := by
  unfold atMost at h
  split at h
  · cases h
  · exact congrArg Fault.kind (Except.error.inj h).symm

/-- What cannot be compared with its bound is of the wrong type. -/
theorem Config.Bound.kind_of_refused (h : b.refused = .error fault) : fault.kind = .badType := by
  unfold refused at h
  split at h
  · exact Value.kind_of_before h
  · exact Value.kind_of_atMost h

end Comparisons

theorem Text.trimText_trimText (s : String) : trimText (trimText s) = trimText s := by
  rw [trimText, trimText, String.toList_ofList]
  exact congrArg String.ofList (trimBy_eq_self_iff.2 (tight_trimBy isBlank s.toList))

/-- What settings select was trimmed and something is left of it, or it is the default. -/
theorem Settings.connectStringInForce_cases (settings : Settings) :
    (∃ s, settings.connectStringInForce = Text.trimText s ∧ Text.trimText s ≠ "") ∨
      settings.connectStringInForce = defaultConnectString := by
  have hselect (explicit : String) (environment : String)
      (hexplicit : explicit ≠ "" → ∃ s, explicit = Text.trimText s) :
      let selected := if explicit ≠ "" then explicit
        else if Text.trimText environment ≠ "" then Text.trimText environment
        else defaultConnectString
      (∃ s, selected = Text.trimText s ∧ Text.trimText s ≠ "") ∨
        selected = defaultConnectString := by
    by_cases he : explicit = ""
    · by_cases hn : Text.trimText environment = ""
      · exact .inr (by simp [he, hn])
      · exact .inl ⟨environment, by simp [he, hn], hn⟩
    · obtain ⟨s, rfl⟩ := hexplicit he
      exact .inl ⟨s, by simp [he], he⟩
  refine hselect _ _ fun hne => ?_
  cases hset : settings.connectString with
  | none =>
    rw [hset] at hne
    exact absurd rfl hne
  | some v =>
    rw [hset] at hne
    show ∃ s, (if v.isTruthy then Text.trimText v.display else "") = Text.trimText s
    cases htruthy : v.isTruthy with
    | false => exact ⟨"", rfl⟩
    | true => exact ⟨v.display, rfl⟩

/-- The connect string that settings select is not blank, and is trimmed. -/
theorem Settings.connectStringInForce_spec (settings : Settings) :
    ¬ Text.OnlyBlank settings.connectStringInForce ∧
      Text.trimText settings.connectStringInForce = settings.connectStringInForce := by
  have htrimmed : Text.trimText settings.connectStringInForce = settings.connectStringInForce ∧
      settings.connectStringInForce ≠ "" := by
    rcases settings.connectStringInForce_cases with ⟨s, hs, hne⟩ | hdefault
    · rw [hs]
      exact ⟨Text.trimText_trimText s, hne⟩
    · rw [hdefault]
      exact ⟨by cbv, by decide⟩
  refine ⟨fun honly => htrimmed.2 ?_, htrimmed.1⟩
  rw [← htrimmed.1]
  exact Text.trimText_eq_empty_iff.2 honly

namespace Config

variable {c d : Config} {s : String} {v : Value} {fault : Fault}

/-! ## One question asked three times -/

theorem isBlank_text_iff : isBlank (.text s) = true ↔ Text.OnlyBlank s := by
  rw [← Text.trimText_eq_empty_iff, isBlank, Value.display_text]
  by_cases hs : s = ""
  · subst hs
    exact ⟨fun _ => rfl, fun _ => rfl⟩
  · simp [Value.isTruthy, hs]

theorem isBlank_text_of_not (h : ¬ Text.OnlyBlank s) : isBlank (.text s) = false := by
  rw [← Bool.not_eq_true, isBlank_text_iff]
  exact h

/-- An override is refused just if the check would refuse it. -/
theorem checkOverride_text (s : String) :
    checkOverride (.text s) = refuseIf (.ok (isBlank (.text s))) .overrideBlank := by
  by_cases hs : s = ""
  · subst hs
    rfl
  · have htruthy : (Value.text s).isTruthy = true := decide_eq_true hs
    rw [checkOverride, isBlank, htruthy]
    rfl

/-- The checks of the other fields do not look at the connect string. -/
theorem check_setConnectString (hc : isBlank c.connectString = false) (hv : isBlank v = false) :
    ({ c with connectString := v } : Config).check = c.check := by
  rw [check_eq, check_eq, hc]
  show (do refuseIf (.ok (isBlank v)) _; _) = _
  rw [hv]
  rfl

/-! ## Copies -/

theorem Made.copyOf_eq (h : Made c) : Config.copyOf (some c) = .ok c :=
  checked_eq_ok_iff.2 ⟨h.check, rfl⟩

/-- An override is made just if it is not blank, and nothing else changes. -/
theorem Made.override_iff (h : Made c) :
    Config.withConnectString (some c) (.text s) = .ok d ↔
      ¬ Text.OnlyBlank s ∧ d = { c with connectString := .text s } := by
  rw [withConnectString_eq_ok_iff, checkOverride_text, refuseIf_eq_ok_iff, Except.ok.injEq,
    ← Bool.not_eq_true, isBlank_text_iff]
  refine ⟨fun ⟨hs, _, _, hd⟩ => ⟨hs, hd⟩, fun ⟨hs, hd⟩ => ⟨hs, h.check, ?_, hd⟩⟩
  rw [hd, check_setConnectString (check_eq_ok_iff.1 h.check).1 (isBlank_text_of_not hs)]
  exact h.check

/-- Overrides one after the other. -/
def overrideAll (c : Config) (strings : List String) : Except Fault Config :=
  strings.foldlM (fun c s => withConnectString (some c) (.text s)) c

/-- The last override decides. -/
theorem Made.overrideAll_iff {strings : List String} (h : Made c) :
    overrideAll c (strings ++ [s]) = .ok d ↔
      (∀ t ∈ strings ++ [s], ¬ Text.OnlyBlank t) ∧ d = { c with connectString := .text s } := by
  induction strings generalizing c with
  | nil =>
    rw [List.nil_append, overrideAll, List.foldlM_cons]
    simp only [List.foldlM_nil, bind_pure, List.forall_mem_singleton]
    exact h.override_iff
  | cons t rest ih =>
    rw [List.cons_append, overrideAll, List.foldlM_cons, bind_eq_ok_iff, List.forall_mem_cons]
    constructor
    · rintro ⟨e, he, hrest⟩
      obtain ⟨ht, rfl⟩ := h.override_iff.1 he
      obtain ⟨hall, rfl⟩ := (ih (.withConnectString h he)).1 hrest
      exact ⟨⟨ht, hall⟩, rfl⟩
    · rintro ⟨⟨ht, hall⟩, rfl⟩
      have he := h.override_iff.2 ⟨ht, rfl⟩
      exact ⟨_, he, (ih (.withConnectString h he)).2 ⟨hall, rfl⟩⟩

/-! ## Settings -/

/-- The configuration that settings ask for. -/
def asked (settings : Settings) : Config where
  connectString := .text settings.connectStringInForce
  sessionTimeout := settings.sessionTimeoutInForce
  connectionTimeout := settings.connectionTimeoutInForce
  retryBaseSleep := settings.retryBaseSleepInForce
  retryMaxSleep := settings.retryMaxSleepInForce
  retryMaxTries := settings.retryMaxTriesInForce
  healthCheckName := settings.healthCheckNameInForce

theorem ofSettings_eq (settings : Settings) : ofSettings settings = (asked settings).checked := rfl

theorem isBlank_asked (settings : Settings) : isBlank (asked settings).connectString = false :=
  isBlank_text_of_not settings.connectStringInForce_spec.1

theorem checked_eq_error_iff : c.checked = .error fault ↔ c.check = .error fault := by
  unfold checked
  cases c.check with
  | error _ => exact ⟨fun h => congrArg Except.error (Except.error.inj h),
      fun h => congrArg Except.error (Except.error.inj h)⟩
  | ok _ => exact ⟨nofun, nofun⟩

/-- Settings fail as they would with any other connect string, or with none. -/
theorem ofSettings_eq_error_iff (settings : Settings) (setting : Option Value)
    (environment : Option String) :
    ofSettings settings = .error fault ↔
      ofSettings { settings with connectString := setting, environment := environment }
        = .error fault := by
  rw [ofSettings_eq, ofSettings_eq, checked_eq_error_iff, checked_eq_error_iff,
    ← check_setConnectString (isBlank_asked settings) (isBlank_asked _)]
  rfl

/-- What can be wrong with settings: nothing about their connect string. -/
def problemsOfSettings : List Problem :=
  [.timeoutsNotPositive, .retryBaseSleepTooShort, .retryMaxSleepTooShort, .tooFewTries,
   .blankHealthCheckName]

/-- If a connect string is not blank, then the check finds something else wrong. -/
theorem exists_problem (hc : isBlank c.connectString = false) (h : c.check = .error fault)
    (hkind : fault.kind = .badSettings) : ∃ p ∈ problemsOfSettings, fault = p.fault := by
  rw [check_eq, hc] at h
  rcases then_eq_error h with hfirst | hrest
  · cases hfirst
  rcases then_eq_error hrest with hbounds | hname
  · obtain ⟨b, hb, hrefused⟩ := exists_of_forM_eq_error hbounds
    rcases refuseIf_eq_error hrefused with hincomparable | rfl
    · rw [Bound.kind_of_refused hincomparable] at hkind
      cases hkind
    · refine ⟨b.problem, ?_, rfl⟩
      simp only [bounds, List.mem_cons, List.not_mem_nil, or_false] at hb
      rcases hb with rfl | rfl | rfl | rfl | rfl <;> simp [problemsOfSettings]
  · rcases refuseIf_eq_error hname with hnone | rfl
    · cases hnone
    · exact ⟨_, by simp [problemsOfSettings], rfl⟩

/-- **Copies are made, and connect strings are refused only as overrides.** -/
theorem connectString_never_refused :
    (∀ c : Config, Made c → copyOf (some c) = .ok c ∧
      (∀ (s : String) (d : Config), withConnectString (some c) (.text s) = .ok d ↔
        ¬ Text.OnlyBlank s ∧ d = { c with connectString := .text s }) ∧
      ∀ (strings : List String) (s : String) (d : Config),
        overrideAll c (strings ++ [s]) = .ok d ↔
          (∀ t ∈ strings ++ [s], ¬ Text.OnlyBlank t) ∧ d = { c with connectString := .text s }) ∧
    ∀ settings : Settings,
      (¬ Text.OnlyBlank settings.connectStringInForce ∧
        Text.trimText settings.connectStringInForce = settings.connectStringInForce) ∧
      (∀ c, ofSettings settings = .ok c →
        c.connectString = .text settings.connectStringInForce) ∧
      ∀ fault, ofSettings settings = .error fault →
        (∀ setting environment, ofSettings
          { settings with connectString := setting, environment := environment } = .error fault) ∧
        (fault.kind = .badSettings → ∃ p ∈ problemsOfSettings, fault = p.fault) := by
  refine ⟨fun c h => ⟨h.copyOf_eq, fun s d => h.override_iff, fun strings s d =>
    h.overrideAll_iff⟩, fun settings => ⟨settings.connectStringInForce_spec, ?_, ?_⟩⟩
  · intro c h
    obtain ⟨-, rfl⟩ := checked_eq_ok_iff.1 h
    rfl
  · intro fault h
    refine ⟨fun setting environment => (ofSettings_eq_error_iff settings _ _).1 h, ?_⟩
    rw [ofSettings_eq, checked_eq_error_iff] at h
    exact exists_problem (isBlank_asked settings) h

/-- Of two overrides the second one decides, an em space is none, and settings that are blank fall
back on the environment. -/
theorem defaults_overridden :
    Made defaults ∧
    overrideAll defaults (["zk1:2181"] ++ ["zk2:2181"])
      = .ok { defaults with connectString := .text "zk2:2181" } ∧
    (¬ ∃ d, withConnectString (some defaults) (.text "\u2003") = .ok d) ∧
    let settings := { Settings.unset with
      connectString := some (.text " \t"), environment := some " zk1:2181 " }
    settings.connectStringInForce = "zk1:2181" ∧
      ∀ c, ofSettings settings = .ok c → c.connectString = .text settings.connectStringInForce := by
  have hnone : ofFields [] = .ok defaults := rfl
  have hmade : Made defaults := .ofFields hnone
  obtain ⟨hcopies, hsettings⟩ := connectString_never_refused
  obtain ⟨-, hone, hmany⟩ := hcopies defaults hmade
  refine ⟨hmade, (hmany _ _ _).2 ⟨by decide, rfl⟩, ?_, by cbv, (hsettings _).2.1⟩
  rintro ⟨d, hd⟩
  exact ((hone _ d).1 hd).1 (by decide)

end Config

end TimedLock

import TimedLock.Config

/-!
# Limits of configurations

A configuration is checked whenever one is made, so nothing that the checks refuse is ever found in
one (`made_iff`). The checks ask whether a number is below its bound, and the limits say that it is
not. Of all numbers, the one that is no number is neither.

**Theorem (`withinLimits_iff`).** Whichever way a configuration was made, and from whichever other
ones, its connect string is not blank, its health check has a name, and its other fields are numbers.
Each of these keeps its limit just if it is defined. So the configuration is within its limits just
if none of its numbers is undefined.

The checks of the numbers are one check with a bound as its parameter (`check_eq`), and what it lets
pass keeps the bound just if it is defined (`Bound.holds_of_passed`).
-/

namespace TimedLock

open Number

/-! ## Checks one after the other -/

section Checks

variable {α β : Type} {p : Problem} {refused : Except Fault Bool} {xs : List α}
  {check : α → Except Fault Unit}

theorem bind_eq_ok_iff {x : Except Fault α} {f : α → Except Fault β} {y : β} :
    x >>= f = .ok y ↔ ∃ a, x = .ok a ∧ f a = .ok y := by
  cases x with
  | error fault => exact ⟨nofun, nofun⟩
  | ok a =>
    refine ⟨fun h => ⟨a, rfl, h⟩, ?_⟩
    rintro ⟨_, ⟨⟩, h⟩
    exact h

theorem Config.refuseIf_eq_ok_iff : Config.refuseIf refused p = .ok () ↔ refused = .ok false := by
  cases refused with
  | error fault => exact ⟨nofun, nofun⟩
  | ok b =>
    cases b with
    | true => exact ⟨nofun, nofun⟩
    | false => exact ⟨fun _ => rfl, fun _ => rfl⟩

theorem then_eq_ok_iff {x : Except Fault Unit} {y : Except Fault α} {a : α} :
    (do x; y) = .ok a ↔ x = .ok () ∧ y = .ok a := by
  rw [bind_eq_ok_iff]
  exact ⟨fun ⟨(), hx, hy⟩ => ⟨hx, hy⟩, fun ⟨hx, hy⟩ => ⟨(), hx, hy⟩⟩

theorem forM_eq_ok_iff : forM xs check = .ok () ↔ ∀ x ∈ xs, check x = .ok () := by
  induction xs with
  | nil => exact ⟨nofun, fun _ => rfl⟩
  | cons x rest ih => rw [List.forM_cons, then_eq_ok_iff, ih, List.forall_mem_cons]

end Checks

/-! ## Bounds -/

namespace Number.Quantity

variable {q least : Quantity}

/-- What is not below a defined quantity is at least that quantity just if it is defined. -/
theorem le_of_not_lt (hleast : least.isDefined = true) (h : q.lt least = false) :
    least.le q = q.isDefined := by
  cases hq : q.isDefined with
  | true => exact (not_lt_iff_le hleast hq).1 h
  | false =>
    cases q with
    | undefined => cases least <;> rfl
    | _ => cases hq

/-- What is not at most a defined quantity is above it just if it is defined. -/
theorem lt_of_not_le (hleast : least.isDefined = true) (h : q.le least = false) :
    least.lt q = q.isDefined := by
  cases hq : q.isDefined with
  | true =>
    rw [← Bool.not_eq_false]
    intro hlt
    rw [(not_lt_iff_le hq hleast).1 hlt] at h
    cases h
  | false =>
    cases q with
    | undefined => exact lt_undefined least
    | _ => cases hq

end Number.Quantity

/-- A number of a configuration with its lower bound, which it may reach or has to be above. -/
structure Config.Bound where
  value : Value
  least : Value
  mayReach : Bool
  /-- What is wrong with a number that is below. -/
  problem : Problem

namespace Config.Bound

variable {b : Bound}

/-- Whether the number is refused. -/
def refused (b : Bound) : Except Fault Bool :=
  if b.mayReach then b.value.before b.least else b.value.atMost b.least

/-- Whether the number keeps the bound. -/
def holds (b : Bound) : Except Fault Bool :=
  if b.mayReach then b.least.atMost b.value else b.least.before b.value

/-- **What is not refused is a number, and keeps its bound just if it is defined.** -/
theorem holds_of_passed {least : Quantity} (hleast : b.least.quantity? = some least)
    (hdefined : least.isDefined = true) (h : b.refused = .ok false) :
    ∃ q, b.value.quantity? = some q ∧ b.holds = .ok q.isDefined := by
  obtain ⟨value, bound, mayReach, problem⟩ := b
  simp only at hleast
  cases mayReach with
  | true =>
    simp only [refused, if_true, Value.before, hleast] at h
    simp only [holds, if_true, Value.atMost, hleast]
    cases hq : value.quantity? with
    | none =>
      rw [hq] at h
      cases h
    | some q =>
      rw [hq] at h
      exact ⟨q, rfl, congrArg Except.ok (Quantity.le_of_not_lt hdefined (Except.ok.inj h))⟩
  | false =>
    simp only [refused, Bool.false_eq_true, if_false, Value.atMost, hleast] at h
    simp only [holds, Bool.false_eq_true, if_false, Value.before, hleast]
    cases hq : value.quantity? with
    | none =>
      rw [hq] at h
      cases h
    | some q =>
      rw [hq] at h
      exact ⟨q, rfl, congrArg Except.ok (Quantity.lt_of_not_le hdefined (Except.ok.inj h))⟩

end Config.Bound

/-! ## What the checks let pass -/

namespace Text

/-- Text without a character that is not blank. -/
def OnlyBlank (s : String) : Prop := ∀ c ∈ s.toList, isBlank c = true

instance (s : String) : Decidable (OnlyBlank s) :=
  List.decidableBAll (fun c => isBlank c = true) s.toList

theorem trimText_eq_empty_iff {s : String} : trimText s = "" ↔ OnlyBlank s := by
  rw [trimText, String.ofList_eq_empty_iff, trim_eq_nil_iff]
  rfl

end Text

namespace Config

variable {c : Config}

/-- The numbers of a configuration with their bounds, in the order of the checks. -/
def bounds (c : Config) : List Bound :=
  [⟨c.sessionTimeout, .int 0, false, .timeoutsNotPositive⟩,
   ⟨c.connectionTimeout, .int 0, false, .timeoutsNotPositive⟩,
   ⟨c.retryBaseSleep, leastRetryBaseSleep, true, .retryBaseSleepTooShort⟩,
   ⟨c.retryMaxSleep, leastRetryMaxSleep, true, .retryMaxSleepTooShort⟩,
   ⟨c.retryMaxTries, leastRetryMaxTries, true, .tooFewTries⟩]

/-- A check asks for the connect string, for each number, and for the name. -/
theorem check_eq (c : Config) :
    c.check = (do
      refuseIf (.ok (isBlank c.connectString)) .blankConnectString
      forM c.bounds fun b => refuseIf b.refused b.problem
      refuseIf (.ok !c.healthCheckName.isTruthy) .blankHealthCheckName) := by
  simp only [bounds, List.forM_cons, List.forM_nil, bind_assoc, pure_bind]
  rfl

theorem check_eq_ok_iff :
    c.check = .ok () ↔ isBlank c.connectString = false ∧
      (∀ b ∈ c.bounds, b.refused = .ok false) ∧ c.healthCheckName.isTruthy = true := by
  rw [check_eq, then_eq_ok_iff, then_eq_ok_iff, forM_eq_ok_iff]
  simp only [refuseIf_eq_ok_iff, Except.ok.injEq, Bool.not_eq_false']

theorem isDefined_least {b : Bound} (h : b ∈ c.bounds) :
    ∃ least, b.least.quantity? = some least ∧ least.isDefined = true := by
  simp only [bounds, List.mem_cons, List.not_mem_nil, or_false] at h
  rcases h with rfl | rfl | rfl | rfl | rfl <;> exact ⟨_, rfl, rfl⟩

/-! ## Configurations that exist -/

/-- The configurations that exist: each was given field by field, or by settings, or it is a copy of
one that exists. -/
inductive Made : Config → Prop
  | ofFields {given : List (String × Value)} {c : Config} : ofFields given = .ok c → Made c
  | ofSettings {settings : Settings} {c : Config} : ofSettings settings = .ok c → Made c
  | copyOf {source c : Config} : Made source → copyOf (some source) = .ok c → Made c
  | withConnectString {source c : Config} {v : Value} : Made source →
      withConnectString (some source) v = .ok c → Made c

theorem checked_eq_ok_iff {source : Config} :
    source.checked = .ok c ↔ c.check = .ok () ∧ c = source := by
  unfold checked
  rw [then_eq_ok_iff, Except.ok.injEq, eq_comm (a := source)]
  exact and_congr_left fun h => by rw [h]

theorem withConnectString_eq_ok_iff {source : Config} {v : Value} :
    withConnectString (some source) v = .ok c ↔ checkOverride v = .ok () ∧ source.check = .ok () ∧
      c.check = .ok () ∧ c = { source with connectString := v } := by
  unfold withConnectString copyOf
  rw [then_eq_ok_iff, bind_eq_ok_iff]
  simp only [checked_eq_ok_iff]
  refine and_congr_right fun _ => ⟨?_, ?_⟩
  · rintro ⟨_, ⟨hsource, rfl⟩, h⟩
    exact ⟨hsource, h⟩
  · rintro ⟨hsource, h⟩
    exact ⟨source, ⟨hsource, rfl⟩, h⟩

/-- What was made was checked. -/
theorem Made.check (h : Made c) : c.check = .ok () := by
  cases h with
  | ofFields h =>
    obtain ⟨_, -, hchecked⟩ := bind_eq_ok_iff.1 h
    exact (checked_eq_ok_iff.1 hchecked).1
  | ofSettings h => exact (checked_eq_ok_iff.1 h).1
  | copyOf _ h => exact (checked_eq_ok_iff.1 h).1
  | withConnectString _ h => exact (withConnectString_eq_ok_iff.1 h).2.2.1

/-- **What exists is what passes the checks.** -/
theorem made_iff : Made c ↔ c.check = .ok () := by
  refine ⟨Made.check, fun h => ?_⟩
  have hgiven : Config.ofFields c.fields = .ok c := checked_eq_ok_iff.2 ⟨h, rfl⟩
  exact .ofFields hgiven

/-- A configuration within its limits. -/
structure WithinLimits (c : Config) : Prop where
  connectString : ¬ Text.OnlyBlank c.connectString.display
  bounds : ∀ b ∈ c.bounds, b.holds = .ok true
  healthCheckName : c.healthCheckName.isTruthy = true

theorem display_of_not_isBlank {v : Value} (h : isBlank v = false) :
    ¬ Text.OnlyBlank v.display := by
  intro honly
  rw [isBlank, Text.trimText_eq_empty_iff.2 honly] at h
  simp at h

/-- **Which configurations are within their limits**: those whose numbers are all defined. -/
theorem withinLimits_iff (h : Made c) :
    ¬ Text.OnlyBlank c.connectString.display ∧ c.healthCheckName.isTruthy = true ∧
    (∀ b ∈ c.bounds, ∃ q, b.value.quantity? = some q ∧ b.holds = .ok q.isDefined) ∧
    (c.WithinLimits ↔ ∀ b ∈ c.bounds, b.value.quantity? ≠ some .undefined) := by
  obtain ⟨hblank, hpassed, hname⟩ := check_eq_ok_iff.1 h.check
  have hconnect := display_of_not_isBlank hblank
  have hbounds : ∀ b ∈ c.bounds, ∃ q, b.value.quantity? = some q ∧ b.holds = .ok q.isDefined := by
    intro b hb
    obtain ⟨least, hleast, hdefined⟩ := isDefined_least hb
    exact Bound.holds_of_passed hleast hdefined (hpassed b hb)
  refine ⟨hconnect, hname, hbounds, fun hwithin b hb hundefined => ?_, fun hdefined => ?_⟩
  · obtain ⟨q, hq, hholds⟩ := hbounds b hb
    rw [hundefined] at hq
    cases hq
    rw [hwithin.bounds b hb] at hholds
    cases hholds
  · refine ⟨hconnect, fun b hb => ?_, hname⟩
    obtain ⟨q, hq, hholds⟩ := hbounds b hb
    rw [hholds]
    cases q with
    | undefined => exact absurd hq (hdefined b hb)
    | finite _ => rfl
    | infinite _ => rfl

/-- A session without end, where an operation is tried once: no limit is an upper one, and a truth
value is a number. -/
def patient : Config :=
  { defaults with sessionTimeout := .float (infinity false), retryMaxTries := .bool true }

/-- It is within its limits, and so is a copy with another connect string. -/
theorem withinLimits_of_patient :
    let c := { patient with connectString := .text " zk1:2181" }
    Made c ∧ c.WithinLimits := by
  intro c
  have hgiven : ofFields [("session_timeout", .float (infinity false)),
      ("retry_max_tries", .bool true)] = .ok patient := rfl
  have hoverridden : withConnectString (some patient) (.text " zk1:2181") = .ok c := rfl
  have hmade : Made c := .withConnectString (.copyOf (.ofFields hgiven) rfl) hoverridden
  refine ⟨hmade, (withinLimits_iff hmade).2.2.2.2 fun b hb => ?_⟩
  simp only [bounds, List.mem_cons, List.not_mem_nil, or_false] at hb
  rcases hb with rfl | rfl | rfl | rfl | rfl <;> nofun

/-- A configuration whose session timeout is no number. -/
def timeless : Config := { defaults with sessionTimeout := .float undefinedFloat }

/-- It is accepted, from the settings too, and its session timeout is not above zero. -/
theorem not_withinLimits_of_timeless :
    ofFields [("session_timeout", .float undefinedFloat)] = .ok timeless ∧
      ofSettings { Settings.unset with sessionTimeout := some (.float undefinedFloat) }
        = .ok timeless ∧
      Made timeless ∧ Value.before (.int 0) timeless.sessionTimeout = .ok false ∧
      ¬ timeless.WithinLimits := by
  have hgiven : ofFields [("session_timeout", .float undefinedFloat)] = .ok timeless := rfl
  have hbelow : Value.before (.int 0) timeless.sessionTimeout = .ok false := rfl
  refine ⟨hgiven, rfl, .ofFields hgiven, hbelow, fun hwithin => ?_⟩
  have hholds := hwithin.bounds _ List.mem_cons_self
  cases hholds.symm.trans hbelow

end Config

end TimedLock

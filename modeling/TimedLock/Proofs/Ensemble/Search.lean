import TimedLock.Ensemble.Availability
import TimedLock.Proofs.Agreement

/-!
# The search for an available server

**Theorem (`available_search`).** The servers that a connect string names are probed in their order,
up to the first that accepts the connection or fails other than by being out of reach, or all of them
if there is none. The answer is yes in the first case and no in the last; in the second the check
ends with the fault of that server, but for an end of an iteration, which would end the search
without a word and is told as a failure of the search (`told`). If no server fails that way, the
answer is the same for the servers in any other order.

What was probed is written down with its answer, which changes nothing. One server is probed by one
step (`accepts_probing`), and by induction on the servers a search stops where its last answer says
(`Searched`). This holds whatever the probes do to the world. Only the order asks for more, that
a server answers the same whenever it is probed.
-/

namespace TimedLock.Ensemble

variable {σ : Type}

/-! ## What is probed -/

/-- A server that was probed, and its answer. -/
structure Probing where
  server : Server
  answer : Except Fault Unit

/-- The server could not be reached. -/
def Probing.IsRefused (p : Probing) : Prop := ∃ fault, p.answer = .error fault ∧ fault.isSystem = true

/-- A probe that is written down. -/
def probing (probe : Probe σ) : Probe (σ × List Probing) := fun server timeout =>
  (probe server timeout).logged (⟨server, ·⟩)

/-- How a search of some servers ends, and what it probes. -/
inductive Searched : List Server → List Probing → Except Fault Bool → Prop
  | refused (asked : List Probing) : (∀ p ∈ asked, p.IsRefused) →
      Searched (asked.map Probing.server) asked (.ok false)
  | accepted (asked : List Probing) (x : Server) (rest : List Server) :
      (∀ p ∈ asked, p.IsRefused) →
      Searched (asked.map Probing.server ++ x :: rest) (asked ++ [⟨x, .ok ()⟩]) (.ok true)
  | failed (asked : List Probing) (x : Server) (rest : List Server) {fault : Fault} :
      (∀ p ∈ asked, p.IsRefused) → fault.isSystem = false →
      Searched (asked.map Probing.server ++ x :: rest) (asked ++ [⟨x, .error fault⟩])
        (.error fault)

namespace Searched

variable {found : List Server} {asked : List Probing} {result : Except Fault Bool}

theorem cons {p : Probing} (hp : p.IsRefused) (h : Searched found asked result) :
    Searched (p.server :: found) (p :: asked) result := by
  have hall {asked : List Probing} (hasked : ∀ q ∈ asked, q.IsRefused) :
      ∀ q ∈ p :: asked, q.IsRefused := List.forall_mem_cons.2 ⟨hp, hasked⟩
  cases h with
  | refused asked hasked => exact .refused _ (hall hasked)
  | accepted asked x rest hasked => exact .accepted _ x rest (hall hasked)
  | failed asked x rest hasked hfault => exact .failed _ x rest (hall hasked) hfault

/-- What is probed are the first servers. -/
theorem isPrefix (h : Searched found asked result) : asked.map Probing.server <+: found := by
  cases h with
  | refused => exact List.prefix_refl _
  | accepted asked x rest | failed asked x rest => exact ⟨rest, by simp⟩

/-- Where there are servers, one is probed. -/
theorem ne_nil (h : Searched found asked result) (hne : found ≠ []) : asked ≠ [] := by
  cases h with
  | refused => exact fun hnil => hne (by rw [hnil, List.map_nil])
  | accepted | failed => simp

/-- If no server fails other than by being out of reach, the answer is whether any accepts. -/
theorem result_eq {outcome : Server → Except Fault Unit} (h : Searched found asked result)
    (hasked : ∀ p ∈ asked, p.answer = outcome p.server)
    (hreach : ∀ x ∈ found, ∀ fault, outcome x = .error fault → fault.isSystem = true) :
    ∃ b, result = .ok b ∧ (b = true ↔ ∃ x ∈ found, outcome x = .ok ()) := by
  cases h with
  | refused asked hrefused =>
    refine ⟨false, rfl, nofun, ?_⟩
    rintro ⟨x, hx, haccepts⟩
    obtain ⟨p, hp, rfl⟩ := List.mem_map.1 hx
    obtain ⟨fault, hfault, -⟩ := hrefused p hp
    rw [hasked p hp, haccepts] at hfault
    cases hfault
  | accepted asked x rest hrefused =>
    have hx : Except.ok () = outcome x := hasked ⟨x, .ok ()⟩ (by simp)
    exact ⟨true, rfl, fun _ => ⟨x, by simp, hx.symm⟩, fun _ => rfl⟩
  | @failed asked x rest fault hrefused hfault =>
    have hx : Except.error fault = outcome x := hasked ⟨x, .error fault⟩ (by simp)
    have hsystem := hreach x (by simp) fault hx.symm
    rw [hfault] at hsystem
    cases hsystem

end Searched

/-- How the fault of a probe is told. -/
def told (fault : Fault) : Fault :=
  if fault.kind = .endOfIteration then Problem.searchEnded.causedBy fault else fault

theorem searching_apply {search : Run σ Bool} {s t : σ} {result : Except Fault Bool}
    (h : search s = (result, t)) : searching search s = (result.mapError told, t) := by
  cases result with
  | ok b => exact Run.recover_of_ok h
  | error fault =>
    show searching search s = (.error (told fault), t)
    by_cases hk : fault.kind = .endOfIteration
    · rw [told, if_pos hk]
      exact Run.recover_of_caught h (decide_eq_true hk)
    · rw [told, if_neg hk]
      exact Run.recover_of_not_caught h (decide_eq_false hk)

/-! ## One server after the other -/

variable [Journal σ]

/-- What the answer of a server says about it. -/
def verdict : Except Fault Unit → Except Fault Bool
  | .ok () => .ok true
  | .error fault => if fault.isSystem then .ok false else .error fault

theorem accepts_probing (probe : Probe σ) (timeout : Value) (x : Server)
    (w : σ × List Probing) :
    ∃ t, accepts (probing probe) timeout x w
      = (verdict (probe x timeout w.1).1, t, w.2 ++ [⟨x, (probe x timeout w.1).1⟩]) := by
  rcases hprobe : probe x timeout w.1 with ⟨answer, t⟩
  have hasked : probing probe x timeout w = (answer, t, w.2 ++ [⟨x, answer⟩]) :=
    Run.logged_of hprobe _ w.2
  cases answer with
  | ok _ => exact ⟨t, Run.recover_of_ok (Run.bind_ok _ hasked)⟩
  | error fault =>
    have hask := Run.bind_error (fun _ => (pure true : Run (σ × List Probing) Bool)) hasked
    cases hsystem : fault.isSystem with
    | true =>
      rw [verdict, if_pos hsystem]
      unfold accepts
      rw [Run.recover_of_caught hask hsystem, Run.note_bind_apply]
      exact ⟨_, rfl⟩
    | false =>
      refine ⟨t, (Run.recover_of_not_caught hask hsystem).trans ?_⟩
      rw [verdict, hsystem]
      rfl

/-- **A search** probes what `Searched` says, and writes down what the probes answered. -/
theorem anyAccepts_searched (probe : Probe σ) (timeout : Value) (found : List Server)
    (w : σ × List Probing) :
    ∃ asked result t, anyAccepts (probing probe) timeout found w = (result, t, w.2 ++ asked) ∧
      Searched found asked result ∧ ∀ p ∈ asked, ∃ s, (probe p.server timeout s).1 = p.answer := by
  -- every probing leaves another world and a longer record, so the rest is searched from any of them
  induction found generalizing w with
  | nil =>
    refine ⟨[], .ok false, w.1, ?_, .refused [] (by simp), by simp⟩
    rw [List.append_nil]
    rfl
  | cons x rest ih =>
    obtain ⟨t, hx⟩ := accepts_probing probe timeout x w
    have hanswered : ∀ p ∈ [(⟨x, (probe x timeout w.1).1⟩ : Probing)],
        ∃ s, (probe p.server timeout s).1 = p.answer := by
      intro p hp
      rw [List.mem_singleton.1 hp]
      exact ⟨w.1, rfl⟩
    cases hanswer : (probe x timeout w.1).1 with
    | ok _ =>
      rw [hanswer] at hx hanswered
      exact ⟨_, _, t, Run.bind_ok _ hx, .accepted [] x rest (by simp), hanswered⟩
    | error fault =>
      rw [hanswer] at hx hanswered
      cases hsystem : fault.isSystem with
      | true =>
        rw [verdict, if_pos hsystem] at hx
        obtain ⟨asked, result, u, hrest, hsearched, hasked⟩ :=
          ih (t, w.2 ++ [⟨x, .error fault⟩])
        refine ⟨⟨x, .error fault⟩ :: asked, result, u, (Run.bind_ok _ hx).trans ?_,
          hsearched.cons (p := ⟨x, .error fault⟩) ⟨fault, rfl, hsystem⟩,
          List.forall_mem_cons.2 ⟨hanswered _ (List.mem_singleton_self _), hasked⟩⟩
        show anyAccepts (probing probe) timeout rest (t, w.2 ++ [⟨x, .error fault⟩]) = _
        rw [hrest, List.append_assoc, List.singleton_append]
      | false =>
        rw [verdict, if_neg (by rw [hsystem]; decide)] at hx
        exact ⟨_, _, t, Run.bind_error _ hx, .failed [] x rest (by simp) hsystem,
          hanswered⟩

/-! ## The check -/

/-- A check probes the servers that the connect string names. -/
theorem isAvailable_eq_searching {v : Value} {found : List Server} (h : servers v = .ok found)
    (probe : Probe σ) (timeout : Value) :
    isAvailable probe timeout v = searching (anyAccepts probe timeout found) := by
  rw [isAvailable, h]
  rfl

theorem anyAccepts_agree (probe : Probe σ) (timeout : Value) (found : List Server) :
    Run.Agree Run.Shares (anyAccepts (probing probe) timeout found)
      (anyAccepts probe timeout found) := by
  induction found with
  | nil => exact .pure false
  | cons x rest ih =>
    have hprobe : Run.Agree Run.Shares (probing probe x timeout) (probe x timeout) :=
      .logged _ _
    have haccepts : Run.Agree Run.Shares (accepts (probing probe) timeout x)
        (accepts probe timeout x) :=
      (hprobe.bind fun _ => .pure true).recover fun fault =>
        (Run.Agree.note Run.Shares.journaled _ _ _).bind fun _ => .pure false
    exact haccepts.bind fun b => .ite (.pure true) ih

/-- Writing down what is probed changes nothing. -/
theorem searching_eq_probing (probe : Probe σ) (timeout : Value) (found : List Server) (s : σ) :
    let ran := searching (anyAccepts (probing probe) timeout found) (s, [])
    searching (anyAccepts probe timeout found) s = (ran.1, ran.2.1) := by
  obtain ⟨houtcome, hworld⟩ :=
    ((anyAccepts_agree probe timeout found).recover fun fault => .fail _) (s, []) s rfl
  exact Prod.ext houtcome.symm hworld.symm

/-- A probe answers for each server what is assigned to it, whenever it is asked. -/
def Answers (probe : Probe σ) (outcome : Server → Except Fault Unit) : Prop :=
  ∀ server timeout s, (probe server timeout s).1 = outcome server

variable {probe : Probe σ} {outcome : Server → Except Fault Unit}

/-- A search of servers whose answers are known. -/
theorem search_answered (hanswers : Answers probe outcome) (timeout : Value)
    (found : List Server) (s : σ) :
    ∃ asked result t,
      searching (anyAccepts (probing probe) timeout found) (s, [])
        = (result.mapError told, t, asked) ∧
      Searched found asked result ∧ ∀ p ∈ asked, p.answer = outcome p.server := by
  obtain ⟨asked, result, t, hran, hsearched, hasked⟩ :=
    anyAccepts_searched probe timeout found (s, [])
  refine ⟨asked, result, t, searching_apply hran, hsearched, fun p hp => ?_⟩
  obtain ⟨u, hu⟩ := hasked p hp
  exact hu.symm.trans (hanswers p.server timeout u)

/-- If no server fails other than by being out of reach, the answer is whether any accepts. -/
theorem answer_of_reach (hanswers : Answers probe outcome) (timeout : Value)
    {found : List Server}
    (hreach : ∀ x ∈ found, ∀ fault, outcome x = .error fault → fault.isSystem = true) (s : σ) :
    ∃ b, (searching (anyAccepts probe timeout found) s).1 = .ok b ∧
      (b = true ↔ ∃ x ∈ found, outcome x = .ok ()) := by
  obtain ⟨asked, result, t, hran, hsearched, hasked⟩ := search_answered hanswers timeout found s
  obtain ⟨b, rfl, hb⟩ := hsearched.result_eq hasked hreach
  refine ⟨b, ?_, hb⟩
  rw [searching_eq_probing, hran]
  rfl

theorem answer_of_perm (hanswers : Answers probe outcome) (timeout : Value)
    {found found' : List Server} (hperm : found'.Perm found)
    (hreach : ∀ x ∈ found, ∀ fault, outcome x = .error fault → fault.isSystem = true) (s s' : σ) :
    (searching (anyAccepts probe timeout found') s').1
      = (searching (anyAccepts probe timeout found) s).1 := by
  have hreach' : ∀ x ∈ found', ∀ fault, outcome x = .error fault → fault.isSystem = true :=
    fun x hx => hreach x (hperm.mem_iff.1 hx)
  obtain ⟨b, hanswer, hb⟩ := answer_of_reach hanswers timeout hreach s
  obtain ⟨b', hanswer', hb'⟩ := answer_of_reach hanswers timeout hreach' s'
  have hsame : b' = b := by
    rw [Bool.eq_iff_iff, hb, hb']
    simp only [hperm.mem_iff]
  rw [hanswer, hanswer', hsame]

/-- **The search for an available server.** -/
theorem available_search {v : Value} {found : List Server} (hfound : servers v = .ok found)
    (hanswers : Answers probe outcome) (timeout : Value) (s : σ) :
    let ran := isAvailable (probing probe) timeout v (s, [])
    isAvailable probe timeout v s = (ran.1, ran.2.1) ∧
      (∀ c : Config, c.connectString = v →
        isAvailableFor probe timeout c s = (ran.1, ran.2.1)) ∧
      (∃ result, Searched found ran.2.2 result ∧ ran.1 = result.mapError told) ∧
      (∀ p ∈ ran.2.2, p.answer = outcome p.server) ∧
      ((∀ x ∈ found, ∀ fault, outcome x = .error fault → fault.isSystem = true) →
        ∀ found', found'.Perm found → ∀ s',
          (searching (anyAccepts probe timeout found') s').1 = ran.1) := by
  intro ran
  have hsame : isAvailable probe timeout v s = (ran.1, ran.2.1) := by
    simp only [ran, isAvailable_eq_searching hfound]
    exact searching_eq_probing probe timeout found s
  have hconfigured : ∀ c : Config, c.connectString = v →
      isAvailableFor probe timeout c s = (ran.1, ran.2.1) := by
    rintro c rfl
    exact hsame
  obtain ⟨asked, result, t, hran, hsearched, hasked⟩ := search_answered hanswers timeout found s
  rw [← isAvailable_eq_searching hfound (probing probe) timeout] at hran
  have hran : ran = (result.mapError told, t, asked) := hran
  refine ⟨hsame, hconfigured, ?_⟩
  rw [hran]
  refine ⟨⟨result, hsearched, rfl⟩, hasked, fun hreach found' hperm s' => ?_⟩
  have hanswer : (isAvailable probe timeout v s).1 = result.mapError told := by
    rw [hsame, hran]
  rw [answer_of_perm hanswers timeout hperm hreach s s', ← hanswer,
    isAvailable_eq_searching hfound]

/-- A probe that answers what is assigned. -/
def answering (outcome : Server → Except Fault Unit) : Probe σ := fun server _ =>
  .ofExcept (outcome server)

omit [Journal σ] in
theorem answering_answers (outcome : Server → Except Fault Unit) :
    Answers (answering outcome : Probe σ) outcome := fun _ _ _ => rfl

/-- Every server but the primary one refuses the connection. -/
def onlyPrimary : Server → Except Fault Unit := fun x =>
  if x.host = "primary" then .ok () else .error (.simple .connectionRefused none)

/-- The primary server is found, wherever it stands among the servers, and none after it is
probed. -/
theorem primary_found :
    let found : List Server := [⟨"backup", 1⟩, ⟨"primary", 2⟩, ⟨"spare", 3⟩]
    let ran := isAvailable (probing (answering onlyPrimary)) (.int 2)
      (.text "backup:1,primary:2,spare:3") (([] : List Entry), [])
    servers (.text "backup:1,primary:2,spare:3") = .ok found ∧
      Answers (answering onlyPrimary : Probe (List Entry)) onlyPrimary ∧
      ran.1 = .ok true ∧ ran.2.2.map Probing.server = found.take 2 ∧
      ∀ found', found'.Perm found → ∀ s' : List Entry,
        (searching (anyAccepts (answering onlyPrimary) (.int 2) found') s').1 = .ok true := by
  intro found ran
  have hfound : servers (.text "backup:1,primary:2,spare:3") = .ok found := rfl
  have hanswers : Answers (answering onlyPrimary : Probe (List Entry)) onlyPrimary :=
    answering_answers onlyPrimary
  have hran : ran = searching (anyAccepts (probing (answering onlyPrimary)) (.int 2) found)
      (([] : List Entry), []) := by
    simp only [ran, isAvailable_eq_searching hfound]
  have hyes : ran.1 = .ok true := by
    rw [hran]
    rfl
  have hasked : ran.2.2.map Probing.server = found.take 2 := by
    rw [hran]
    rfl
  obtain ⟨-, -, -, -, hany⟩ := available_search hfound hanswers (.int 2) []
  refine ⟨hfound, hanswers, hyes, hasked, fun found' hperm s' => ?_⟩
  refine (hany ?_ found' hperm s').trans hyes
  intro x _ fault hfault
  unfold onlyPrimary at hfault
  split at hfault
  · cases hfault
  · cases hfault
    rfl

/-- A probe that ends an iteration does not end the check as it would end a loop: what the check
fails with is another fault, which has this one as its cause. -/
theorem end_of_iteration_told :
    let stop := Fault.simple .endOfIteration none
    let check := isAvailable (answering fun _ => .error stop) (.int 2) (.text "primary:2")
      ([] : List Entry)
    servers (.text "primary:2") = .ok [⟨"primary", 2⟩] ∧ stop.isSystem = false ∧
      check.1 = .error (Problem.searchEnded.causedBy stop) ∧ check.1 ≠ .error stop := by
  intro stop check
  have hcheck : check.1 = .error (Problem.searchEnded.causedBy stop) := rfl
  refine ⟨rfl, rfl, hcheck, fun hstop => ?_⟩
  rw [hcheck] at hstop
  exact absurd (congrArg Fault.kind (Except.error.inj hstop)) (by decide)

end TimedLock.Ensemble

import TimedLock.Proofs.Lock.CachedAgreement
import TimedLock.Proofs.Lock.CachedOutcomes
import TimedLock.Proofs.Lock.CachedSteps
import TimedLock.Proofs.Lock.MemoryCache

/-!
# A release is all or nothing, and can be tried again

**Theorem (`release_all_or_nothing`).** A release of a cache mutex that returns found its own token
under the key, deleted the key, and cleared the token. One that ends with a fault keeps the token; it
leaves the cache as it was, unless it was the deletion that failed, after all that it was to do. So it
can be tried again: when the cache works, another release returns just if the token is still under
the key. In neither case is any other key touched, nor a key that others hold.

Of the cache it is only known that it does what it says: reading a key and deleting it may fail in any
world, with any fault, and a deletion that fails may or may not have deleted the key (`Fallible`). The
world in which the release begins is arbitrary: there may be a token or none, which may be under the
key, have expired, or have been replaced by another one.

What is asked of the cache is written down, which changes nothing. A release asks for one of five
things (`Settled`), and everything else is read off these.
-/

namespace TimedLock.Lock

variable {σ β τ γ : Type}

/-! ## What is asked of the cache -/

/-- What a release asks of the cache, with the answer. -/
inductive Query
  | got (key : String) (answer : Except Fault Value)
  | deleted (key : String) (answer : Except Fault Unit)

/-- Surroundings where these are written down. -/
def Surroundings.queried (env : Surroundings σ) : Surroundings (σ × List Query) where
  add key token expire := (env.add key token expire).inShared
  get key := (env.get key).logged (.got key)
  delete key := (env.delete key).logged (.deleted key)
  drawToken := env.drawToken.inShared
  now := env.now.inShared
  sleep pause := (env.sleep pause).inShared
  patience := env.patience

/-- A mutex in such surroundings. -/
def Cached.queried (lock : Cached σ) : Cached (σ × List Query) where
  name := lock.name
  expire := lock.expire
  pollInterval := lock.pollInterval
  token := lock.token.inShared

theorem Surroundings.queried_agree (env : Surroundings σ) :
    Surroundings.Agree Run.Shares env.queried env where
  add _ _ _ := .inShared _
  get _ := .logged _ _
  delete _ := .logged _ _
  drawToken := .inShared _
  now := .inShared _
  sleep _ := .inShared _
  patience := rfl

theorem Cached.queried_agree (lock : Cached σ) : Cached.Agree Run.Shares lock.queried lock where
  name := rfl
  expire := rfl
  pollInterval := rfl
  token := .inShared _

/-- Writing down what is asked changes nothing. -/
theorem release_eq_queried [Journal σ] (env : Surroundings σ) (lock : Cached σ) (s : σ) :
    let ran := lock.queried.release env.queried.toCacheService (s, [])
    lock.release env.toCacheService s = (ran.1, ran.2.1) := by
  obtain ⟨houtcome, hworld⟩ :=
    lock.queried_agree.release Run.Shares.journaled env.queried_agree (s, []) s rfl
  exact Prod.ext houtcome.symm hworld.symm

theorem queried_get (env : Surroundings σ) (key : String) (w : (σ × β) × List Query) :
    env.shared.queried.get key w
      = ((env.get key w.1.1).1, ((env.get key w.1.1).2, w.1.2),
          w.2 ++ [.got key (env.get key w.1.1).1]) := rfl

theorem queried_delete (env : Surroundings σ) (key : String) (w : (σ × β) × List Query) :
    env.shared.queried.delete key w
      = ((env.delete key w.1.1).1, ((env.delete key w.1.1).2, w.1.2),
          w.2 ++ [.deleted key (env.delete key w.1.1).1]) := rfl

/-! ## A cache that may fail -/

section Releases

variable [Journal σ] [Preorder τ] [DecidableLE τ]

/-- A cache that does what it says. Reading a key changes nothing and tells what is under the key, if
anything. Deleting a key deletes it, unless it fails. The journal cannot be seen. -/
structure Fallible (cache : CacheService σ) (view : σ → View τ γ) : Prop where
  get : ∀ key s, view (cache.get key s).2 = view s
  value : ∀ key s v, (cache.get key s).1 = .ok v → v = (view s).value key
  delete : ∀ key s, view (cache.delete key s).2 = (view s).erase key ∨
    (∃ fault, (cache.delete key s).1 = .error fault) ∧ view (cache.delete key s).2 = view s
  record : ∀ entry s, view (Journal.record entry s) = view s

/-- A deletion that does not fail is done. -/
theorem Fallible.erased {cache : CacheService σ} {view : σ → View τ γ} (h : Fallible cache view)
    {key : String} {s : σ} (hdone : (cache.delete key s).1 = .ok ()) :
    view (cache.delete key s).2 = (view s).erase key := by
  refine (h.delete key s).resolve_right fun ⟨⟨fault, hfault⟩, _⟩ => ?_
  rw [hdone] at hfault
  cases hfault

omit [Journal σ] in
/-- In the world `s` the cache works, as far as a release needs it to. -/
structure Works (cache : CacheService σ) (view : σ → View τ γ) (key : String) (s : σ) : Prop where
  get : (cache.get key s).1 = .ok ((view s).value key)
  delete : (cache.delete key (cache.get key s).2).1 = .ok ()

variable {env : Surroundings σ} {view : σ → View τ γ} {d : Design} {part : Slot β (Option String)}

/-- What becomes of a release from the world `w`: how it ends, in which world, and what it asked. -/
inductive Settled (view : σ → View τ γ) (d : Design) (part : Slot β (Option String)) (w : σ × β) :
    Except Fault Value → σ × β → List Query → Prop
  /-- There is no token. -/
  | idle : part.read w.2 = none →
      Settled view d part w (.error (Problem.taskLockNotHeld d.name).fault) w []
  | unreadable {token : String} (fault : Fault) {s : σ} : part.read w.2 = some token →
      view s = view w.1 →
      Settled view d part w (.error fault) (s, w.2) [.got d.key (.error fault)]
  /-- Something else is under the key. -/
  | foreign {token : String} {v : Value} {s : σ} : part.read w.2 = some token →
      (view w.1).isUnder d.key token = false → view s = view w.1 →
      Settled view d part w (.error (Problem.taskLockNotHeld d.name).fault) (s, w.2)
        [.got d.key (.ok v)]
  | undeletable {token : String} (fault : Fault) {s : σ} : part.read w.2 = some token →
      (view w.1).isUnder d.key token = true →
      view s = (view w.1).erase d.key ∨ view s = view w.1 →
      Settled view d part w (.error fault) (s, w.2)
        [.got d.key (.ok (.text token)), .deleted d.key (.error fault)]
  | deleted {token : String} {s : σ} : part.read w.2 = some token →
      (view w.1).isUnder d.key token = true → view s = (view w.1).erase d.key →
      Settled view d part w (.ok .null) (s, part.write none w.2)
        [.got d.key (.ok (.text token)), .deleted d.key (.ok ())]

/-- **A release**, whatever the cache answers. -/
theorem settled (h : Fallible env.toCacheService view) (d : Design) (part : Slot β (Option String))
    (w : σ × β) :
    let ran := (d.mutex part).queried.release env.shared.queried.toCacheService (w, [])
    Settled view d part w ran.1 ran.2.1 ran.2.2 := by
  intro ran
  cases htoken : part.read w.2 with
  | none =>
    have hran : ran = (.error (Problem.taskLockNotHeld d.name).fault, w, []) :=
      release_of_no_token _ (d.mutex part).queried (s := (w, [])) htoken
    rw [hran]
    exact .idle htoken
  | some token =>
    have hreleased := release_outcome (s := (w, [])) env.shared.queried.toCacheService
      (d.mutex part).queried htoken
    change Released _ _ _ (env.shared.queried.get d.key _) ran at hreleased
    rw [queried_get] at hreleased
    have hget : view (env.get d.key w.1).2 = view w.1 := h.get d.key w.1
    have hvalue := h.value d.key w.1
    generalize (env.get d.key w.1).1 = answer at hreleased hvalue
    generalize (env.get d.key w.1).2 = s at hreleased hget
    have hown {v : Value} (hv : answer = .ok v) :
        (view w.1).isUnder d.key token = v.isText token := by
      rw [hvalue v hv]
      rfl
    rcases hran : ran with ⟨outcome, v, queries⟩
    rw [hran] at hreleased
    cases hreleased with
    | unreadable fault => exact .unreadable fault htoken hget
    | foreign _ hv => exact .foreign htoken ((hown rfl).trans hv) hget
    | undeletable hv hdel =>
      obtain rfl := Value.eq_text_of_isText hv
      rw [queried_delete] at hdel
      obtain ⟨hfault, hworld⟩ := Prod.mk.inj hdel
      cases hworld
      rw [hfault]
      refine .undeletable _ htoken ((hown rfl).trans hv) ?_
      rw [← hget]
      exact (h.delete d.key s).imp_right And.right
    | deleted hv hdel hn =>
      obtain rfl := Value.eq_text_of_isText hv
      have hdone : (env.delete d.key s).1 = .ok () := congrArg Prod.fst hdel
      have hworld : (((env.delete d.key s).2, w.2),
          [Query.got d.key (.ok (.text token)), .deleted d.key (env.delete d.key s).1]) = _ :=
        congrArg Prod.snd hdel
      rw [hdone] at hworld
      subst hworld
      have hqueries : queries = [.got d.key (.ok (.text token)), .deleted d.key (.ok ())] :=
        hn.private_eq
      have hpart : v.2 = part.write none w.2 := hn.shared.private_eq
      have hview : view v.1 = view (env.delete d.key s).2 := hn.shared.shared.eq_of view h.record
      obtain ⟨s', b⟩ := v
      subst hqueries hpart
      refine .deleted htoken ((hown rfl).trans hv) ?_
      rw [hview, ← hget, h.erased hdone]

/-- Where the cache works, a release returns just if the token of the mutex is under the key. -/
theorem release_returns_iff {w : σ × β} (h : Works env.toCacheService view d.key w.1) :
    ((d.mutex part).release env.shared.toCacheService w).1 = .ok .null ↔
      (view w.1).isOwn d.key (part.read w.2) = true := by
  cases htoken : part.read w.2 with
  | none =>
    rw [release_of_no_token env.shared.toCacheService (d.mutex part) htoken]
    exact ⟨nofun, nofun⟩
  | some token =>
    have hreleased := release_outcome env.shared.toCacheService (d.mutex part) htoken
    have hget : env.shared.get d.key w
        = (.ok ((view w.1).value d.key), (env.get d.key w.1).2, w.2) :=
      Run.inShared_of (Prod.ext h.get rfl) w.2
    change Released _ _ _ (env.shared.get d.key w) _ at hreleased
    rw [hget] at hreleased
    change _ ↔ ((view w.1).value d.key).isText token = true
    rcases hran : (d.mutex part).release env.shared.toCacheService w with ⟨outcome, v⟩
    rw [hran] at hreleased
    cases hreleased with
    | foreign _ hv => simp [hv]
    | undeletable _ hdel =>
      have hfault := (congrArg Prod.fst hdel).symm.trans h.delete
      cases hfault
    | deleted hv => simp [hv]

/-! ## All or nothing -/

/-- What is to be shown of a release from the world `w`, which ended with `outcome` in the world `v`
and asked for `queries`. -/
structure AllOrNothing (env : Surroundings σ) (view : σ → View τ γ) (d : Design)
    (part : Slot β (Option String)) (w : σ × β) (outcome : Except Fault Value) (v : σ × β)
    (queries : List Query) : Prop where
  /-- A failure keeps the token, and the cache too unless it was the deletion that failed. -/
  nothing : ∀ fault, outcome = .error fault → v.2 = w.2 ∧
    (view v.1 = view w.1 ∨
      view v.1 = (view w.1).erase d.key ∧ .deleted d.key (.error fault) ∈ queries)
  /-- After a failure the mutex can be released as soon as the cache works. -/
  retry : ∀ fault, outcome = .error fault → ∀ s, Works env.toCacheService view d.key s →
    (((d.mutex part).release env.shared.toCacheService (s, v.2)).1 = .ok .null ↔
      (view s).isOwn d.key (part.read w.2) = true)
  all : ∀ value, outcome = .ok value → (view w.1).isOwn d.key (part.read w.2) = true ∧
    (view v.1).live d.key = none ∧ v.2 = part.write none w.2 ∧ part.read v.2 = none
  /-- Other keys stay as they are, and so does the key of the mutex while others hold it. -/
  others : ∀ key, key ≠ d.key ∨ (view w.1).isOwn d.key (part.read w.2) = false →
    (view v.1).live key = (view w.1).live key
  /-- A deletion comes after the answer that the token of the mutex is under the key. -/
  deletion : ∀ key answer, .deleted key answer ∈ queries → key = d.key ∧
    ∃ token, part.read w.2 = some token ∧
      queries = [.got d.key (.ok (.text token)), .deleted d.key answer]

namespace Settled

variable {w v : σ × β} {outcome : Except Fault Value} {queries : List Query}

omit [Journal σ]

/-- The cache stays as it is, unless its key is deleted by the owner. -/
theorem view_cases (h : Settled view d part w outcome v queries) :
    view v.1 = view w.1 ∨
      (view w.1).isOwn d.key (part.read w.2) = true ∧ view v.1 = (view w.1).erase d.key := by
  cases h with
  | idle => exact .inl rfl
  | unreadable _ _ hs => exact .inl hs
  | foreign _ _ hs => exact .inl hs
  | undeletable _ htoken hown hs => exact hs.elim (.inr ⟨by rw [htoken]; exact hown, ·⟩) .inl
  | deleted htoken hown hs => exact .inr ⟨by rw [htoken]; exact hown, hs⟩

theorem others (h : Settled view d part w outcome v queries) {key : String}
    (hkey : key ≠ d.key ∨ (view w.1).isOwn d.key (part.read w.2) = false) :
    (view v.1).live key = (view w.1).live key := by
  obtain hs | ⟨hown, hs⟩ := h.view_cases
  · rw [hs]
  · rw [hs, View.live_erase_of_ne (hkey.resolve_right (by simp [hown]))]

theorem nothing {fault : Fault} (h : Settled view d part w (.error fault) v queries) :
    v.2 = w.2 ∧ (view v.1 = view w.1 ∨
      view v.1 = (view w.1).erase d.key ∧ .deleted d.key (.error fault) ∈ queries) := by
  cases h with
  | idle => exact ⟨rfl, .inl rfl⟩
  | unreadable _ _ hs => exact ⟨rfl, .inl hs⟩
  | foreign _ _ hs => exact ⟨rfl, .inl hs⟩
  | undeletable _ _ _ hs => exact ⟨rfl, hs.elim (.inr ⟨·, by simp⟩) .inl⟩

theorem all {value : Value} (h : Settled view d part w (.ok value) v queries) :
    (view w.1).isOwn d.key (part.read w.2) = true ∧ (view v.1).live d.key = none ∧
      v.2 = part.write none w.2 := by
  cases h with
  | deleted htoken hown hs =>
    refine ⟨by rw [htoken]; exact hown, ?_, rfl⟩
    rw [hs, View.live_erase_self]

theorem deletion (h : Settled view d part w outcome v queries) {key : String}
    {answer : Except Fault Unit} (hdel : .deleted key answer ∈ queries) :
    key = d.key ∧ ∃ token, part.read w.2 = some token ∧
      queries = [.got d.key (.ok (.text token)), .deleted d.key answer] := by
  cases h with
  | idle => cases hdel
  | unreadable => simp at hdel
  | foreign => simp at hdel
  | undeletable _ htoken =>
    obtain ⟨rfl, rfl⟩ : key = d.key ∧ answer = _ := by simpa using hdel
    exact ⟨rfl, _, htoken, rfl⟩
  | deleted htoken =>
    obtain ⟨rfl, rfl⟩ : key = d.key ∧ answer = _ := by simpa using hdel
    exact ⟨rfl, _, htoken, rfl⟩

end Settled

/-- **A release is all or nothing**, from any world, whatever the cache answers. -/
theorem release_all_or_nothing (h : Fallible env.toCacheService view) (d : Design)
    (part : Slot β (Option String)) [part.Lawful] (w : σ × β) :
    let ran := (d.mutex part).queried.release env.shared.queried.toCacheService (w, [])
    (d.mutex part).release env.shared.toCacheService w = (ran.1, ran.2.1) ∧
      AllOrNothing env view d part w ran.1 ran.2.1 ran.2.2 := by
  intro ran
  have hsettled := settled h d part w
  refine ⟨release_eq_queried .., ?_⟩
  change Settled view d part w ran.1 ran.2.1 ran.2.2 at hsettled
  generalize ran.1 = outcome at hsettled
  generalize ran.2.1 = v, ran.2.2 = queries at hsettled
  constructor
  case nothing =>
    rintro fault rfl
    exact hsettled.nothing
  case retry =>
    rintro fault rfl s hworks
    rw [release_returns_iff hworks, hsettled.nothing.1]
  case all =>
    rintro value rfl
    obtain ⟨hown, hgone, hcleared⟩ := hsettled.all
    exact ⟨hown, hgone, hcleared, by rw [hcleared, Slot.Lawful.read_write]⟩
  case others =>
    intro key hkey
    exact hsettled.others hkey
  case deletion =>
    intro key answer hdel
    exact hsettled.deletion hdel

end Releases

/-! ## A cache that is out of reach for a while -/

/-- How a cache is reached. -/
inductive Link
  | up
  | down
  /-- What is asked is done, but no answer comes to a deletion. -/
  | lossy

/-- What is under the keys of a cache behind a link. -/
def remoteView (m : Memory × Link) : View Seconds Unit := m.1.view

/-- The fault of a request without an answer. -/
def noAnswer : Fault := .simple .connection none

/-- The cache in memory, behind a link. -/
def Memory.remote : Surroundings (Memory × Link) where
  add key token expire := (Memory.surroundings.add key token expire).inShared
  get key m := match m.2 with
    | .down => (.error noAnswer, m)
    | _ => (Memory.surroundings.get key).inShared m
  delete key m := match m.2 with
    | .up => (Memory.surroundings.delete key).inShared m
    | .down => (.error noAnswer, m)
    | .lossy => (.error noAnswer, m.1.erase key, m.2)
  drawToken := Memory.surroundings.drawToken.inShared
  now := Memory.surroundings.now.inShared
  sleep pause := (Memory.surroundings.sleep pause).inShared
  patience := Memory.surroundings.patience

theorem remote_fallible : Fallible Memory.remote.toCacheService remoteView where
  get key := by rintro ⟨m, _ | _ | _⟩ <;> rfl
  value key := by
    rintro ⟨m, _ | _ | _⟩ v hv <;> cases hv <;> rfl
  delete key := by
    rintro ⟨m, _ | _ | _⟩
    · exact .inl (m.view_erase key)
    · exact .inr ⟨⟨noAnswer, rfl⟩, rfl⟩
    · exact .inl (m.view_erase key)
  record entry m := rfl

theorem remote_works (key : String) (m : Memory) :
    Works Memory.remote.toCacheService remoteView key (m, .up) := ⟨rfl, rfl⟩

/-- A mutex for a report. -/
def reportDesign : Design := ⟨.text "report", .int 60, .int 1⟩

/-- Everything that is private is the token. -/
def tokenSlot : Slot (Option String) (Option String) := ⟨id, fun token _ => token⟩

instance : tokenSlot.Lawful := ⟨fun _ _ => rfl, fun _ _ _ => rfl, fun _ => rfl⟩

/-- The mutex is held, and its key is there. -/
def reportHeld (link : Link) : (Memory × Link) × Option String :=
  ((Memory.fresh.put reportDesign.key "own" (.int 60), link), some "own")

/-- While the cache is down a release fails, and another one returns once it is up. Where only the
answer to the deletion was lost, the key is gone, so another one fails too. -/
theorem report_released_again :
    let released (link : Link) := (reportDesign.mutex tokenSlot).queried.release
      Memory.remote.shared.queried.toCacheService (reportHeld link, [])
    let again (m : Memory) (token : Option String) :=
      ((reportDesign.mutex tokenSlot).release Memory.remote.shared.toCacheService
        ((m, .up), token)).1
    ((released .down).1 = .error noAnswer ∧ (released .down).2.1.2 = some "own" ∧
        remoteView (released .down).2.1.1 = remoteView (reportHeld .down).1 ∧
        again (reportHeld .down).1.1 (released .down).2.1.2 = .ok .null) ∧
      (released .lossy).1 = .error noAnswer ∧ (released .lossy).2.1.2 = some "own" ∧
        again (released .lossy).2.1.1.1 (released .lossy).2.1.2 ≠ .ok .null := by
  intro released again
  have hwhole (link : Link) :=
    (release_all_or_nothing remote_fallible reportDesign tokenSlot (reportHeld link)).2
  have hdown : (released .down).1 = .error noAnswer := rfl
  have hlossy : (released .lossy).1 = .error noAnswer := rfl
  have hqueries : (released .down).2.2 = [.got reportDesign.key (.error noAnswer)] := rfl
  obtain ⟨htoken, hview⟩ := (hwhole .down).nothing noAnswer hdown
  refine ⟨⟨hdown, htoken, hview.resolve_right fun ⟨_, hdel⟩ => ?_, ?_⟩, hlossy, ?_, ?_⟩
  · have hdel : Query.deleted reportDesign.key (.error noAnswer) ∈ (released .down).2.2 := hdel
    rw [hqueries] at hdel
    simp at hdel
  · exact ((hwhole .down).retry noAnswer hdown _ (remote_works _ _)).2 rfl
  · exact ((hwhole .lossy).nothing noAnswer hlossy).1
  · intro hagain
    have hown := ((hwhole .lossy).retry noAnswer hlossy _ (remote_works _ _)).1 hagain
    cases hown

end TimedLock.Lock

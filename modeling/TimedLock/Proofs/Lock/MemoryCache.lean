import TimedLock.Proofs.Lock.CacheContract

/-!
# A cache in memory

A small cache that keeps the contract (`Memory.faithful`): an expiring store with a clock of whole
seconds, on which every sleep takes one second. It serves as a concrete cache wherever one is
needed.
-/

namespace TimedLock.Lock

/-- A reading of a clock, or a length of time. -/
structure Seconds where
  count : Int
deriving DecidableEq, Repr

namespace Seconds

instance : Add Seconds := ⟨fun a b => ⟨a.count + b.count⟩⟩

instance : LE Seconds := ⟨fun a b => a.count ≤ b.count⟩

instance : DecidableLE Seconds := fun a b => Int.decLe a.count b.count

instance : Preorder Seconds where
  le_refl a := Int.le_refl a.count
  le_trans _ _ _ := Int.le_trans

theorem le_add (a : Seconds) (n : Nat) : a ≤ a + ⟨n⟩ := by
  show a.count ≤ a.count + n
  omega

end Seconds

/-- A cache in memory. -/
structure Memory where
  clock : Seconds
  store : ExpiringStore Seconds Value
  /-- How many tokens were drawn. -/
  drawn : Nat
  additions : List (Addition Seconds)
  journal : List Entry

/-- A cache in which nothing happened yet. -/
def Memory.fresh : Memory := ⟨⟨0⟩, .empty, 0, [], []⟩

instance : Journal Memory where
  record entry m := { m with journal := m.journal ++ [entry] }

/-- The time in whole seconds. A time of zero counts as one before now. -/
def Seconds.ofValue? : Value → Option Seconds
  | .int n => some ⟨if n = 0 then -1 else n⟩
  | _ => none

theorem Seconds.before_le (now : Seconds) : now + ⟨-1⟩ ≤ now := by
  show now.count + -1 ≤ now.count
  omega

/-- Whole seconds, or no time. -/
def wholeSeconds : Lifetimes Seconds where
  admits v := v = .null ∨ ∃ n, v = .int n
  span := Seconds.ofValue?
  span_null := rfl
  span_zero := ⟨⟨-1⟩, rfl, Seconds.before_le⟩

/-- The token with a number. -/
def tokenOf (n : Nat) : String := .ofList (List.replicate n 'x')

theorem tokenOf_injective {m n : Nat} (h : tokenOf m = tokenOf n) : m = n := by
  have hl := congrArg List.length (String.ofList_injective h)
  rw [List.length_replicate, List.length_replicate] at hl
  exact hl

namespace Memory

/-- Stores a token under a key. -/
def put (key token : String) (expire : Value) (m : Memory) : Memory :=
  let a : Addition Seconds := ⟨key, token, expire, m.clock⟩
  { m with store := m.store.put key (a.entry wholeSeconds), additions := a :: m.additions }

/-- Removes a key. -/
def erase (key : String) (m : Memory) : Memory := { m with store := m.store.erase key }

/-- Counts a token. -/
def draw (m : Memory) : Memory := { m with drawn := m.drawn + 1 }

/-- The cache after some time. -/
def after (seconds : Nat) (m : Memory) : Memory := { m with clock := m.clock + ⟨seconds⟩ }

/-- The cache as a service, and time that passes. -/
def surroundings : Surroundings Memory where
  add key token expire := do
    let isFree ← .look fun m => m.store.isFree m.clock key
    if isFree then
      .change (put key token expire)
      pure (.bool true)
    else pure (.bool false)
  get key := .look fun m => ((m.store.live? m.clock key).map (·.value)).getD .null
  delete key := .change (erase key)
  drawToken := do
    let n ← .look Memory.drawn
    .change draw
    pure (tokenOf n)
  now := pure 0
  sleep _ := .change (after 1)
  patience := 1000

/-- What is seen of the cache. -/
def view (m : Memory) : View Seconds Unit where
  clock := m.clock
  live := m.store.live? m.clock
  drawn := { token | ∃ n, n < m.drawn ∧ token = tokenOf n }
  additions := m.additions
  rest := ()
  isLive_of_live _ _ h := (Option.filter_eq_some_iff.1 h).2

theorem passes_after (m : Memory) (seconds : Nat) : m.view.Passes (m.after seconds).view := by
  have hle : m.clock ≤ m.clock + ⟨seconds⟩ := m.clock.le_add seconds
  exact {
    clock_le := hle
    drawn_subset := subset_rfl
    live_eq := fun key => (Stored.filter_isLive_filter hle (m.store.stored? key)).symm
    additions_eq := rfl
    rest_eq := rfl }

theorem view_put (m : Memory) (key token : String) (expire : Value) :
    (m.put key token expire).view = m.view.add wholeSeconds key token expire := by
  ext1
  case live =>
    funext other
    have hput := m.store.live?_put m.clock key other
      (Addition.entry wholeSeconds ⟨key, token, expire, m.clock⟩)
    by_cases h : other = key
    · subst h
      rw [View.live_add_self]
      exact hput.trans (if_pos rfl)
    · rw [View.live_add_of_ne h]
      exact hput.trans (if_neg h)
  all_goals rfl

theorem view_erase (m : Memory) (key : String) : (m.erase key).view = m.view.erase key := by
  ext1
  case live =>
    funext other
    have herase := m.store.live?_erase m.clock key other
    by_cases h : other = key
    · subst h
      rw [View.live_erase_self]
      exact herase.trans (if_pos rfl)
    · rw [View.live_erase_of_ne h]
      exact herase.trans (if_neg h)
  all_goals rfl

theorem view_draw (m : Memory) : m.draw.view = m.view.draw (tokenOf m.drawn) := by
  ext1
  case drawn =>
    ext token
    show (∃ n, n < m.drawn + 1 ∧ token = tokenOf n)
      ↔ token = tokenOf m.drawn ∨ ∃ n, n < m.drawn ∧ token = tokenOf n
    constructor
    · rintro ⟨n, hn, rfl⟩
      by_cases he : n = m.drawn
      · exact .inl (congrArg tokenOf he)
      · exact .inr ⟨n, by omega, rfl⟩
    · rintro (rfl | ⟨n, hn, rfl⟩)
      · exact ⟨m.drawn, by omega, rfl⟩
      · exact ⟨n, by omega, rfl⟩
  all_goals rfl

/-- **The cache keeps the contract.** -/
theorem faithful : FaithfulSurroundings surroundings view wholeSeconds where
  add_free key token expire m _ hfree := by
    have hf : m.store.isFree m.clock key = true := by
      show (m.view.live key).isNone = true
      rw [hfree]
      rfl
    refine ⟨.bool true, m.put key token expire, ?_, rfl, view_put m key token expire⟩
    show (Run.look _ >>= _) m = _
    rw [Run.look_bind_apply, if_pos hf]
    rfl
  add_taken key token expire m entry _ htaken := by
    have hf : ¬ m.store.isFree m.clock key = true := by
      show ¬ (m.view.live key).isNone = true
      rw [htaken]
      exact Bool.false_ne_true
    refine ⟨.bool false, m, ?_, rfl, rfl⟩
    show (Run.look _ >>= _) m = _
    rw [Run.look_bind_apply, if_neg hf]
    rfl
  get key m := ⟨m, rfl, rfl⟩
  delete key m := ⟨m.erase key, rfl, view_erase m key⟩
  drawToken m := by
    refine ⟨tokenOf m.drawn, m.draw, rfl, ?_, view_draw m⟩
    rintro ⟨n, hn, he⟩
    have := tokenOf_injective he
    omega
  record entry m := rfl
  now m := .refl _
  sleep pause m := passes_after m 1

end Memory

end TimedLock.Lock

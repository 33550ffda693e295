/-!
# Expiring stores

A store of values under keys, where an entry is gone from the instant on at which it expires.
Locks are built on storing only where `isFree` holds, under a key that has no live entry.

`τ` is what the clock reads, `ν` what is stored. The statements below give each operation through
the view `live?`.
-/

namespace TimedLock

/-- A stored value and the instant at which it expires, if it does. -/
structure Stored (τ ν : Type) where
  value : ν
  expiry : Option τ

/-- Whether an entry has not expired at an instant. -/
def Stored.isLive {τ ν : Type} [LE τ] [DecidableLE τ] (entry : Stored τ ν) (now : τ) : Bool :=
  match entry.expiry with
  | none => true
  | some expiry => !decide (expiry ≤ now)

/-- A store of values that expire. Each key is stored at most once. -/
structure ExpiringStore (τ ν : Type) where
  entries : List (String × Stored τ ν)

namespace ExpiringStore

variable {τ ν : Type}

/-- The store with nothing in it. -/
def empty : ExpiringStore τ ν := ⟨[]⟩

/-- What is stored under a key, expired or not. -/
def stored? (store : ExpiringStore τ ν) (key : String) : Option (Stored τ ν) :=
  (store.entries.find? (·.1 = key)).map (·.2)

/-- Removes a key. -/
def erase (store : ExpiringStore τ ν) (key : String) : ExpiringStore τ ν :=
  ⟨store.entries.filter (·.1 ≠ key)⟩

/-- Stores an entry in place of any other under its key. -/
def put (store : ExpiringStore τ ν) (key : String) (entry : Stored τ ν) : ExpiringStore τ ν :=
  ⟨(key, entry) :: (store.erase key).entries⟩

variable [LE τ] [DecidableLE τ]

/-- The live entry of a key. -/
def live? (store : ExpiringStore τ ν) (now : τ) (key : String) : Option (Stored τ ν) :=
  (store.stored? key).filter (·.isLive now)

/-- Whether a key has no live entry. -/
def isFree (store : ExpiringStore τ ν) (now : τ) (key : String) : Bool :=
  (store.live? now key).isNone

/-- The live entries. -/
def liveEntries (store : ExpiringStore τ ν) (now : τ) : List (String × Stored τ ν) :=
  store.entries.filter (·.2.isLive now)

/-! ## The view -/

omit [LE τ] [DecidableLE τ] in
@[simp]
theorem stored?_erase (store : ExpiringStore τ ν) (key other : String) :
    (store.erase key).stored? other = if other = key then none else store.stored? other := by
  unfold erase stored?
  rw [List.find?_filter]
  by_cases h : other = key
  · subst h
    rw [if_pos rfl, List.find?_eq_none.2]
    · rfl
    · intro e _
      simp
  · rw [if_neg h]
    congr 2
    funext e
    by_cases he : e.1 = other <;> simp [he, h]

omit [LE τ] [DecidableLE τ] in
@[simp]
theorem stored?_put (store : ExpiringStore τ ν) (key other : String) (entry : Stored τ ν) :
    (store.put key entry).stored? other
      = if other = key then some entry else store.stored? other := by
  have h := stored?_erase store key other
  unfold put
  by_cases hk : other = key
  · subst hk
    simp [stored?]
  · rw [if_neg hk] at h ⊢
    rw [← h]
    have : ¬ key = other := fun e => hk e.symm
    simp [stored?, this]

/-- After an erasure the key has no live entry, and the other keys have what they had. -/
theorem live?_erase (store : ExpiringStore τ ν) (now : τ) (key other : String) :
    (store.erase key).live? now other = if other = key then none else store.live? now other := by
  unfold live?
  rw [stored?_erase]
  split <;> rfl

/-- Storing changes what is live under its own key alone. -/
theorem live?_put (store : ExpiringStore τ ν) (now : τ) (key other : String)
    (entry : Stored τ ν) :
    (store.put key entry).live? now other
      = if other = key then (some entry).filter (·.isLive now) else store.live? now other := by
  unfold live?
  rw [stored?_put]
  split <;> rfl

end ExpiringStore

end TimedLock

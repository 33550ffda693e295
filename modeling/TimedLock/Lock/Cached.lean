import TimedLock.Handle
import TimedLock.Lock.Polling

/-!
# The cache mutex

A mutex kept as a key of a shared cache. Whoever adds the key owns the mutex, and the value under
the key is a token drawn for that attempt, by which an owner knows the key as its own. The key
expires, so that the mutex of an owner that dies comes free again.

The cache cannot compare and delete in one step: between the check and the deletion of `release`
the key may expire and be taken by another owner.
-/

namespace TimedLock.Lock

/-- The shared cache. -/
structure CacheService (σ : Type) where
  /-- Stores a token under a key for a time, unless the key is there. -/
  add : (key token : String) → (expire : Value) → Run σ Value
  get : (key : String) → Run σ Value
  delete : (key : String) → Run σ Unit
  /-- A token that was never drawn before. -/
  drawToken : Run σ String

/-- All that a cache mutex needs of its world: the shared cache, and time to wait in. -/
structure Surroundings (σ : Type) extends CacheService σ where
  now : Run σ Float
  sleep : Value → Run σ Unit
  /-- How often a wait polls at most. -/
  patience : Nat

/-- The same surroundings in a world with a private part. -/
def Surroundings.shared {σ β : Type} (env : Surroundings σ) : Surroundings (σ × β) where
  add key token expire := (env.add key token expire).inShared
  get key := (env.get key).inShared
  delete key := (env.delete key).inShared
  drawToken := env.drawToken.inShared
  now := env.now.inShared
  sleep pause := (env.sleep pause).inShared
  patience := env.patience

/-- Time left is a difference of doubles, and the shorter of two waits is the interval unless what
is left comes before it. -/
instance : Pace Float Value where
  left deadline now := deadline - now
  isOver left := (Number.Quantity.ofFloat left).le .zero
  pause interval left := do
    if ← (Value.float left).before interval then .ok (.float left) else .ok interval

/-- The key of a lock name. -/
def cacheKey (name : Value) : String := "agentcore_lock_task_lock:" ++ name.display

/-- A cache mutex. -/
structure Cached (σ : Type) where
  name : Value
  /-- After how many seconds the key expires. -/
  expire : Value
  /-- How many seconds lie between two tries. -/
  pollInterval : Value
  /-- The token of the attempt that obtained the mutex. -/
  token : Slot σ (Option String)

/-- The poll interval where none is given. -/
def defaultPollInterval : Value := .float 0.1

namespace Cached

variable {σ : Type} [Journal σ]

/-- The key of the mutex. -/
def key (lock : Cached σ) : String := cacheKey lock.name

/-- One try to add the key, with a token of its own. -/
def attempt (cache : CacheService σ) (lock : Cached σ) : Run σ Bool := do
  let token ← cache.drawToken
  let added ← cache.add lock.key token lock.expire
  if added.isTruthy then
    lock.token.set (some token)
    .note .info .taskLock s!"Acquired task lock lock_name={lock.name.display}"
    pure true
  else pure false

/-- The mutex as something to poll for. -/
def poller (env : Surroundings σ) (lock : Cached σ) : Poller σ Float Value where
  attempt := lock.attempt env.toCacheService
  now := env.now
  sleep := env.sleep

/-- Obtains the mutex within a time. -/
def acquire (env : Surroundings σ) (lock : Cached σ) (time : Value) (unit : TimeUnit) :
    Run σ Value := do
  let start ← env.now
  let seconds ← .ofExcept (unit.toSeconds time)
  let deadline ← .ofExcept (seconds.addedTo start)
  let obtained ← (lock.poller env).run lock.pollInterval deadline env.patience
  if !obtained then
    .note .debug .taskLock s!"Task lock already exists lock_name={lock.name.display}"
  pure (.bool obtained)

/-- Whether the key holds the token of this mutex. The cache is asked only if there is one. -/
def ownsKey (cache : CacheService σ) (lock : Cached σ) : Run σ Bool := do
  match ← lock.token.get with
  | none => pure false
  | some token =>
    let value ← cache.get lock.key
    pure (value.isText token)

/-- Deletes the key, if it is this owner's. -/
def release (cache : CacheService σ) (lock : Cached σ) : Run σ Value := do
  if ← lock.ownsKey cache then
    cache.delete lock.key
    lock.token.set none
    .note .info .taskLock s!"Released task lock lock_name={lock.name.display}"
    pure .null
  else .refuse (.taskLockNotHeld lock.name)

/-- Whether this owner's token is under the key. -/
def isHeld (cache : CacheService σ) (lock : Cached σ) : Run σ Value := do
  let owns ← lock.ownsKey cache
  pure (.bool owns)

/-- The mutex as it is shown in messages. -/
def describe (lock : Cached σ) : String :=
  let name := lock.name.literal
  s!"CacheMutex(lock_name={name})"

/-- The mutex as a handle, the same on every thread. -/
def handle (env : Surroundings σ) (lock : Cached σ) : Handle σ where
  acquire := lock.acquire env
  release := lock.release env.toCacheService
  isHeld := lock.isHeld env.toCacheService
  describe _ := lock.describe

end Cached

/-- Whether a lock name is taken. A cache that fails counts as free, and is written to the
journal. -/
def isNameLocked {σ : Type} [Journal σ] (cache : CacheService σ) (name : Value) : Run σ Bool :=
  let ask : Run σ Bool := do
    let value ← cache.get (cacheKey name)
    pure !value.isNull
  ask.recover Fault.isOrdinary fun fault => do
    .note .error .taskLock
      s!"Failed to check task lock lock_name={name.display}: {fault.message}"
    pure false

end TimedLock.Lock

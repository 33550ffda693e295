import TimedLock.Client.Basic
import TimedLock.Lock.Recipe

/-!
# The events of a rehearsal

What can be seen of a rehearsal while a step runs, in the order in which it happens.
-/

namespace TimedLock.Rehearsal

/-- Something that was seen to happen. -/
inductive Event
  /-- An entry of the journal. -/
  | entry (entry : Entry)
  | lockAcquire (lock : String) (time : Value) (unit : TimeUnit)
  | lockRelease (lock : String)
  | lockHeld (lock : String)
  /-- The service was asked for a building block: a counter with a single lease, or a lock. -/
  | recipeMade (isLease : Bool) (path identifier : Value)
  | recipeAcquire (lock : String) (wait : Wait)
  | recipeRelease (lock : String)
  | cacheAdd (key token : String) (expire : Value)
  | cacheGet (key : String)
  | cacheDelete (key : String)
  | sleep (pause : Value)
  /-- A scheduled step began. -/
  | scheduled (label : String)
  /-- A step of a program ended. -/
  | stepEnded (outcome : Except Fault Value)
  | actionBegan
  /-- The body of a hold began, with the lock that was asked for or another one. -/
  | bodyBegan (sameLock : Bool)
  | handlerBegan (phase : Phase) (fault : Fault)
  | taskBegan (positional : List Value) (named : List (String × Value))
  | retryMade (name : String) (policy : Client.RetryPolicy)
  | clientMade (options : Client.Options)
  | clientStart (client : String) (timeout : Value)
  | clientStop (client : String)
  | clientClose (client : String)
  | clientChildren (client path : String)
  | clientListen (client : String)
  /-- The bundle is to be stopped at the end of the program. -/
  | exitRegistered

end TimedLock.Rehearsal

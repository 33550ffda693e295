import TimedLock.Client.Bundle

/-!
# Start-up of the application

An application that is enabled runs its bundle once, and has it stopped when the program ends. A
bundle that already has a client is left alone.
-/

namespace TimedLock.App

variable {σ κ ρ : Type} [Journal σ]

/-- Starts the client of the application. `atExit` has the bundle stopped at the end. -/
def start (bundle : Bundle σ κ ρ) (settings : Settings) (atExit : Run σ Unit) : Run σ Unit := do
  if settings.isEnabled.isTruthy then
    if (← bundle.state.get).managed.isNone then
      let config ← .ofExcept (Config.ofSettings settings)
      let _ ← bundle.run config
      atExit

end TimedLock.App

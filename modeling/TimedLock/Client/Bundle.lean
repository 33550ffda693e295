import TimedLock.Client.Health

/-!
# Bundles

A bundle ties one managed client to its health check. Running it makes the client, then the health
check of that same client, and only then starts the client; so a client that fails to start is
there to be asked about.
-/

namespace TimedLock

/-- A health check: the managed client that it looks at, known by `ρ`, and its connect string. -/
structure HealthCheck (ρ : Type) where
  managed : ρ
  connectString : Value

/-- What a bundle holds. -/
structure BundleState (ρ : Type) where
  config : Option Config
  managed : Option ρ
  health : Option (HealthCheck ρ)

/-- A bundle that was never run. -/
def BundleState.unused {ρ : Type} : BundleState ρ := ⟨none, none, none⟩

/-- A bundle, with what it needs of its world: who makes clients, and where managed clients are
kept. `κ` is what a client is known by, `ρ` what a managed client is known by. -/
structure Bundle (σ κ ρ : Type) where
  maker : Client.Maker σ κ
  /-- Keeps a latent managed client for a client and a connection timeout. -/
  adopt : κ → Value → Run σ ρ
  managed : ρ → Managed σ
  state : Slot σ (BundleState ρ)

namespace Bundle

variable {σ κ ρ : Type} [Journal σ]

/-- Makes and starts the client of a configuration. -/
def run (bundle : Bundle σ κ ρ) (config : Config) : Run σ ρ := do
  let state ← bundle.state.get
  bundle.state.set { state with config := some config }
  let client ← Client.create bundle.maker config
  let managed ← bundle.adopt client config.connectionTimeout
  bundle.state.set ⟨some config, some managed, some ⟨managed, config.connectString⟩⟩
  (bundle.managed managed).start.recover Fault.isOrdinary fun fault =>
    .fail (Problem.startFailed.causedBy fault)
  let shown ← (bundle.managed managed).describe
  .note .info .bundle
    (s!"Started ZooKeeper client, registered managed client [ {shown} ] and health check "
      ++ s!"with name '{config.healthCheckName.display}'")
  pure managed

/-- Stops the managed client, if there is one. -/
def stop (bundle : Bundle σ κ ρ) : Run σ Unit := do
  match (← bundle.state.get).managed with
  | none => pure ()
  | some managed => (bundle.managed managed).stop

/-- The client, if there is one. -/
def client (bundle : Bundle σ κ ρ) : Run σ (Option (Client σ)) := do
  let state ← bundle.state.get
  pure (state.managed.map fun managed => (bundle.managed managed).client)

/-- Checks the health of the client. -/
def checkHealth (bundle : Bundle σ κ ρ) (health : HealthCheck ρ) : Run σ Report :=
  (bundle.managed health.managed).patient.check health.connectString

end Bundle

end TimedLock

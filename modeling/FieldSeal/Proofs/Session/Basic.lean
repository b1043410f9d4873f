import FieldSeal.Proofs.Codec

/-!
# Sessions

**Operations.** An `Operation` is one call of a codec, or of the service, the masker, the registry or
the key ring that belong to it. Its type says what it answers. `Operation.run` performs it; a failed
operation leaves the state that it left when it failed.

**Sessions.** A session is any list of operations, performed one after another (`Session.run`). It
starts with a codec whose service has bound nothing yet and whose registry holds built-in sealers
(`Session.start`).

**The invariant.** An operation that registers no foreign sealer leads from a codec to one that
`Follows` it, and so does a session of such operations (`Session.follows_run`).
-/

namespace FieldSeal

/-- Ask the ring behind a supply. A fixed supply has none. -/
def KeySupply.askRing {α : Type} (f : KeyRing × Host → α × KeyRing × Host) :
    KeySupply × Host → Option α × KeySupply × Host
  | (.fixed answer, host) => (none, .fixed answer, host)
  | (.generated ring warned, host) =>
    (some (f (ring, host)).1, .generated (f (ring, host)).2.1 warned, (f (ring, host)).2.2)

/-- One call; the index is the type of its answer. -/
inductive Operation : Type → Type where
  | encrypt (text : String) : Operation (Except EnvelopeError Envelope)
  | encryptToWire (text : String) : Operation (Except EnvelopeError String)
  | encryptWithMask (text mask : String) : Operation (Except EnvelopeError String)
  | decrypt (wire : String) : Operation (Except EnvelopeError String)
  | decryptEnvelope (e : Envelope) : Operation (Except EnvelopeError String)
  | decryptWith (keys : KeyPair) (e : Envelope) : Operation (Except EnvelopeError String)
  | protect (rule : MaskRule) (value : String) : Operation (Except FieldError String)
  | reveal (rule : MaskRule) (text : String) : Operation (Except FieldError String)
  | mask (rule : MaskRule) (value : String) : Operation (Except MaskError String)
  | accepts (rule : MaskRule) (value : String) : Operation (Except MaskError Bool)
  | pattern (text : String) : Operation (Except MaskError Pattern)
  | activeSuite : Operation (Except EnvelopeError Suite)
  | setPolicy (policy : Policy) : Operation Unit
  | supportedSuites : Operation (List Suite)
  | bindingFor (suite : Suite) : Operation (Except EnvelopeError Kept)
  /-- Register with the service, which drops the binding of the suite. -/
  | register (sealer : Sealer) : Operation (Except EnvelopeError Unit)
  /-- Register with the registry, past the service. -/
  | put (sealer : Sealer) : Operation (Option Sealer)
  | pairFor (suite : Suite) : Operation (Except EnvelopeError KeyPair)
  /-- Ask the key ring for the keys of a suite, past the supply. -/
  | ringPair (suite : Suite) : Operation (Option KeyPair)
  /-- Ask the key ring for one key. -/
  | ringKey (kind : KeyKind) : Operation (Option SecretKey)
  /-- Make a key that is kept nowhere. -/
  | generateKey (kind : KeyKind) : Operation SecretKey

namespace Operation

variable {α : Type}

def onService (a : Service.Step α) : Action Codec EnvelopeError α :=
  Action.on (·.service) (fun service c => { c with service }) a

def onMasker (a : Masker.Step α) : Action Codec MaskError α :=
  Action.on (·.masker) (fun masker c => { c with masker }) a

def onRegistry (f : Registry × Host → α × Registry × Host) (c : Codec) : α × Codec :=
  match f (c.service.registry, c.service.host) with
  | (x, registry, host) => (x, { c with service := { c.service with registry, host } })

def onSupply (f : KeySupply × Host → α × KeySupply × Host) (c : Codec) : α × Codec :=
  match f (c.service.supply, c.service.host) with
  | (x, supply, host) => (x, { c with service := { c.service with supply, host } })

def onHost (f : Host → α × Host) (c : Codec) : α × Codec :=
  match f c.service.host with
  | (x, host) => (x, { c with service := { c.service with host } })

/-- Perform an operation. -/
def run : {α : Type} → Operation α → Codec → α × Codec
  | _, encrypt text => onService (Service.encrypt text)
  | _, encryptToWire text => onService (Envelope.toWire <$> Service.encrypt text)
  | _, encryptWithMask text shown => onService (Service.encryptWithMask text shown)
  | _, decrypt wire => onService (Service.decrypt wire)
  | _, decryptEnvelope e => onService (Service.decryptEnvelope e)
  | _, decryptWith keys e => onService (Service.decryptWith keys e)
  | _, protect rule value => Codec.protect rule value
  | _, reveal rule text => Codec.reveal rule text
  | _, mask rule value => onMasker (Masker.mask rule value)
  | _, accepts rule value => onMasker (Masker.accepts rule value)
  | _, pattern text => onMasker (Masker.pattern text)
  | _, activeSuite => onService Service.activeSuite
  | _, setPolicy policy => fun c => ((), { c with service := { c.service with policy } })
  | _, supportedSuites => fun c => (c.service.supportedSuites, c)
  | _, bindingFor suite => onService (Service.bindingFor suite)
  | _, register sealer => onService (Service.register sealer)
  | _, put sealer => onRegistry (Registry.put sealer)
  | _, pairFor suite => onService (Service.pairFor suite)
  | _, ringPair suite => onSupply (KeySupply.askRing (KeyRing.pairFor suite))
  | _, ringKey kind => onSupply (KeySupply.askRing (KeyRing.get kind))
  | _, generateKey kind => onHost (KeyRing.generate kind)

/-- The operation registers no foreign sealer. -/
def BuiltIn : Operation α → Prop
  | register sealer => ∃ suite, sealer = .builtIn suite
  | put sealer => ∃ suite, sealer = .builtIn suite
  | _ => True

end Operation

/-- Operations in the order in which they are performed. -/
abbrev Session := List ((α : Type) × Operation α)

namespace Session

/-- The codec after a session. -/
def run : Session → Codec → Codec
  | [], c => c
  | ⟨_, op⟩ :: ops, c => run ops (op.run c).2

/-- No operation registers a foreign sealer. -/
def BuiltIn (session : Session) : Prop := ∀ step ∈ session, step.2.BuiltIn

/-- A registry into which the built-in sealers of suites were put. -/
def registryOf (suites : List Suite) : Registry :=
  suites.foldl (fun r suite => r.register (.builtIn suite)) .empty

/-- A codec that was not used yet. -/
def start (suites : List Suite) (policy : Policy) (supply : KeySupply) (host : Host) : Codec where
  service := { registry := registryOf suites, policy, supply, host }

end Session

/-! ## What operations keep -/

theorem KeySupply.extends_askRing {α : Type} {f : KeyRing × Host → α × KeyRing × Host}
    (hf : ∀ state : KeyRing × Host, state.1.Extends (f state).2.1) (state : KeySupply × Host) :
    state.1.Extends (askRing f state).2.1 := by
  obtain ⟨supply, host⟩ := state
  cases supply with
  | fixed answer => exact Extends.refl _
  | generated ring warned => exact extends_generated (hf (ring, host)) _ _

namespace Operation

variable {α : Type}

theorem along_onService {a : Service.Step α} (h : Action.Along Service.Follows a) :
    Action.Along Codec.Follows (onService a) := Action.along_on h fun _ _ hs => hs

theorem along_onMasker (a : Masker.Step α) : Action.Along Codec.Follows (onMasker a) :=
  fun c => Codec.Follows.refl c

theorem follows_onSupply {f : KeySupply × Host → α × KeySupply × Host}
    (hf : ∀ state : KeySupply × Host, state.1.Extends (f state).2.1) (c : Codec) : c.Follows (onSupply f c).2 :=
  Service.follows_of_same rfl rfl (hf (c.service.supply, c.service.host))

theorem follows_put (suite : Suite) (c : Codec) :
    c.Follows ((put (.builtIn suite)).run c).2 := by
  refine ⟨fun h => ⟨h.registry.register suite, h.kept⟩, fun other h => ?_,
    KeySupply.Extends.refl _⟩
  rcases h with h | h
  · left
    exact h
  · right
    show ((c.service.registry.register (.builtIn suite)).sealer? other).isSome
    by_cases hother : other = suite
    · simp [Registry.register, hother]
    · simpa [Registry.register, hother] using h

/-- What an operation leaves behind. -/
theorem follows_run (op : Operation α) (hop : op.BuiltIn) (c : Codec) :
    c.Follows (op.run c).2 := by
  cases op with
  | encrypt text => exact along_onService (Service.along_encrypt text) c
  | encryptToWire text =>
    refine along_onService (Action.along_bind (Service.along_encrypt text) fun e => ?_) c
    exact Action.along_pure _
  | encryptWithMask text shown =>
    exact along_onService (Service.along_encryptWithMask text shown) c
  | decrypt wire => exact along_onService (Service.along_decrypt wire) c
  | decryptEnvelope e => exact along_onService (Service.along_decryptEnvelope e) c
  | decryptWith keys e => exact along_onService (Service.along_decryptWith keys e) c
  | protect rule value => exact Codec.along_protect rule value c
  | reveal rule text => exact Codec.along_reveal rule text c
  | mask rule value => exact along_onMasker _ c
  | accepts rule value => exact along_onMasker _ c
  | pattern text => exact along_onMasker _ c
  | activeSuite => exact along_onService Service.along_activeSuite c
  | setPolicy policy => exact Service.follows_of_same rfl rfl (KeySupply.Extends.refl _)
  | supportedSuites => exact Codec.Follows.refl c
  | bindingFor suite => exact along_onService (Service.along_bindingFor suite) c
  | register sealer =>
    obtain ⟨suite, rfl⟩ := hop
    exact along_onService (Service.along_register suite) c
  | put sealer =>
    obtain ⟨suite, rfl⟩ := hop
    exact follows_put suite c
  | pairFor suite => exact along_onService (Service.along_pairFor suite) c
  | ringPair suite =>
    exact follows_onSupply (KeySupply.extends_askRing (KeyRing.extends_pairFor suite)) c
  | ringKey kind => exact follows_onSupply (KeySupply.extends_askRing (KeyRing.extends_get kind)) c
  | generateKey kind => exact Service.follows_of_same rfl rfl (KeySupply.Extends.refl _)

end Operation

namespace Session

/-- What a session leaves behind. -/
theorem follows_run {session : Session} (h : session.BuiltIn) (c : Codec) :
    c.Follows (session.run c) := by
  induction session generalizing c with
  | nil => exact Codec.Follows.refl c
  | cons step rest ih =>
    have hstep : c.Follows (step.2.run c).2 := step.2.follows_run (h step List.mem_cons_self) c
    have hrest : BuiltIn rest := fun other hother => h other (List.mem_cons_of_mem _ hother)
    exact hstep.trans (ih hrest _)

theorem builtIn_registryOf (suites : List Suite) : (registryOf suites).BuiltIn := by
  have hfold : ∀ r : Registry, r.BuiltIn →
      (suites.foldl (fun r suite => r.register (.builtIn suite)) r).BuiltIn := by
    induction suites with
    | nil => exact fun r h => h
    | cons suite suites ih => exact fun r h => ih _ (h.register suite)
  exact hfold .empty Registry.builtIn_empty

theorem builtIn_start (suites : List Suite) (policy : Policy) (supply : KeySupply) (host : Host) :
    (start suites policy supply host).service.BuiltIn := by
  refine ⟨builtIn_registryOf suites, fun suite kept h => ?_⟩
  cases h

end Session

end FieldSeal

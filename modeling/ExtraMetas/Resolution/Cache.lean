import ExtraMetas.Resolution.Basic

/-!
# ExtraMetas.Resolution.Cache

A **cache in use**: one cache in front of a ledger, used step by step, while the ledger may change
between the steps. A step looks an account up as a resolution does (`Lookup.cached`), over the
ledger as it is at that step.
-/

namespace ExtraMetas

/-- Does the session have the account at an address? -/
def Session.contains (s : Session) (address : Pubkey) : Bool :=
  (s.find? address).isSome

/-- A ledger with a cache in front of it, which the session holds. -/
structure CachedLedger where
  ledger : Ledger
  session : Session

/-- A use of a cache, or a change of the ledger behind it. -/
inductive CacheStep
  /-- Look an account up. -/
  | get (address : Pubkey)
  /-- Look up the data of an account, which has to exist. -/
  | data (address : Pubkey)
  /-- Ask whether the cache has an account. -/
  | contains (address : Pubkey)
  /-- Another ledger is met from here on. -/
  | change (ledger : Ledger)

/-- What a step answers. -/
inductive CacheAnswer
  | account (result : Except ResolveError Account)
  | data (result : Except ResolveError Bytes)
  | contained (known : Bool)
  | changed

/-- One step: its answer, and the cache and the ledger after it. -/
def CacheStep.perform (c : CachedLedger) : CacheStep → CacheAnswer × CachedLedger
  | get address =>
    let (result, after) := (Lookup.cached c.ledger address).execute c.session
    (.account result, { c with session := after })
  | data address =>
    let (result, after) := ((Lookup.cached c.ledger).data address).execute c.session
    (.data result, { c with session := after })
  | contains address => (.contained (c.session.contains address), c)
  | change ledger => (.changed, { c with ledger := ledger })

end ExtraMetas

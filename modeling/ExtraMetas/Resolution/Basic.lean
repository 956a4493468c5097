import ExtraMetas.Account.Ledger
import ExtraMetas.Account.Known
import ExtraMetas.Address
import ExtraMetas.Descriptor.Decode
import ExtraMetas.Descriptor.Draft

/-!
# ExtraMetas.Resolution.Basic

What a **resolution** works in: its errors, its progress reports, its session, and the ways to look
an account up.

Design points:

* A `Session` holds what a run leaves behind even when it fails: the accounts fetched so far, the
  addresses the ledger was asked for, and the reports. A `Run` therefore answers with both an
  outcome and a session.
* Every account is read through a `Lookup`. The one in use keeps what it was given for an address
  and does not ask again (`Lookup.cachedOver`); what it keeps an account of is another lookup, in
  the end one that asks a ledger each time (`Lookup.ask`).
* A run may be part of another run that has a cache already. It then has a cache of its own in
  front of that one (`Run.withOwnCache`, `Lookup.outside`).
-/

namespace ExtraMetas

/-- Why extra accounts cannot be resolved. -/
inductive ResolveError
  /-- A base account is no account meta. -/
  | notMeta (e : NotMeta)
  /-- The ledger gave no account. -/
  | fetch (e : FetchError)
  /-- An account whose data is needed does not exist. -/
  | accountMissing (address : Pubkey)
  /-- The descriptor account violates the layout. -/
  | malformed (e : DecodeError)
  /-- An index names no known account. -/
  | index (e : KnownError)
  /-- A range ends beyond the instruction data. -/
  | instructionDataBounds (size : Nat) (need : Value)
  /-- A range ends beyond an account's data. -/
  | accountDataBounds (address : Pubkey) (size : Nat) (need : Value)
  /-- The bounds of a range cannot be computed with, or not be written down. -/
  | operand (e : OperandError)
  /-- A key of the wrong length. -/
  | keySize (size : Nat)
  /-- The resolved seeds lead to no address. -/
  | derivation (e : Address.Error)
  /-- A draft of the wrong kind. -/
  | misplaced (m : Draft.Misplaced)

/-- The wording of a failed resolution. -/
def ResolveError.message : ResolveError → String
  | notMeta e => e.message
  | fetch (.failed e) => e.message
  | fetch (.refused e) => e.message
  | accountMissing address => "account " ++ address.text ++ " not found"
  | malformed e => e.message
  | index e => e.message
  | instructionDataBounds size need =>
    s!"instruction data is {size} bytes, need " ++ need.literal
  | accountDataBounds address size need =>
    "account " ++ address.text ++ s!" holds {size} bytes, need " ++ need.literal
  | operand e => e.message
  | keySize size => s!"a key has 32 bytes, not {size}"
  | derivation e => e.message
  | misplaced m => m.message

/-! ### Reports -/

/-- A step that a resolution reports. -/
inductive Report
  /-- There is no descriptor account, so there are no extra accounts. -/
  | noDescriptor (descriptor : Pubkey)
  /-- The descriptor account was read. -/
  | declared (descriptor : Pubkey) (count : Nat)
  /-- The account at `index` was resolved. -/
  | resolved (index : Nat) (m : Meta)
  /-- The mint has no gating program, so there are no extra accounts. -/
  | noGatingProgram (mint : Pubkey)
deriving DecidableEq

/-- The wording of a report. -/
def Report.message : Report → String
  | noDescriptor descriptor =>
    "descriptor " ++ descriptor.text ++ " not found; no extra accounts"
  | declared descriptor count =>
    "descriptor " ++ descriptor.text ++ s!" declares {count} extra accounts"
  | resolved index m =>
    s!"resolved extra account {index}: " ++ m.address.text ++ " (" ++ m.role.name ++ ")"
  | noGatingProgram mint =>
    "mint " ++ mint.text ++ " has no gating program; no extra accounts"

/-! ### Sessions -/

/-- What a run leaves behind: the accounts it knows the answer for, latest first; the caches of the
runs it is part of, innermost first; the addresses the ledger was asked for, in order; and the
reports, in order. -/
structure Session where
  accounts : List (Pubkey × Account)
  enclosing : List (List (Pubkey × Account))
  calls : List Pubkey
  reports : List Report

/-- A session before its first step. -/
def Session.empty : Session :=
  ⟨[], [], [], []⟩

namespace Session

/-- The account that the session has for an address. -/
def find? (s : Session) (address : Pubkey) : Option Account :=
  s.accounts.lookup address

/-- The ledger was asked for an address. -/
def addCall (s : Session) (address : Pubkey) : Session :=
  { s with calls := s.calls ++ [address] }

/-- The account at an address is known from here on. -/
def addAccount (s : Session) (address : Pubkey) (a : Account) : Session :=
  { s with accounts := (address, a) :: s.accounts }

/-- A step was taken. -/
def addReport (s : Session) (r : Report) : Session :=
  { s with reports := s.reports ++ [r] }

/-- A run with a cache of its own begins. -/
def enter (s : Session) : Session :=
  { s with accounts := [], enclosing := s.accounts :: s.enclosing }

/-- Back to the innermost enclosing cache; the session's own is dropped. -/
def leave (s : Session) : Session :=
  { s with accounts := s.enclosing.headD [], enclosing := s.enclosing.tail }

/-- Back behind a cache that was left. -/
def reenter (s : Session) (accounts : List (Pubkey × Account)) : Session :=
  { s with accounts := accounts, enclosing := s.accounts :: s.enclosing }

end Session

/-- A computation with a session that stays when it fails. -/
abbrev Run (ε α : Type) := ExceptT ε (StateM Session) α

namespace Run

/-- The outcome and the session of a run that starts from `s`. -/
def execute {ε α : Type} (r : Run ε α) (s : Session) : Except ε α × Session :=
  StateT.run (ExceptT.run r) s

/-- A result that needs no session, with its error put into the run's. -/
def lift {δ ε α : Type} (inject : δ → ε) : Except δ α → Run ε α
  | .ok a => pure a
  | .error e => throw (inject e)

/-- Report a step. -/
def report {ε : Type} (r : Report) : Run ε Unit :=
  modify (·.addReport r)

/-- A run with a cache of its own, which is empty at first and does not outlast the run. -/
def withOwnCache {ε α : Type} (r : Run ε α) : Run ε α := fun s =>
  let (result, after) := r.execute s.enter
  (result, after.leave)

end Run

/-! ### Lookups -/

/-- A way to get at the account of an address. -/
abbrev Lookup := Pubkey → Run ResolveError Account

namespace Lookup

/-- Ask the port, and keep nothing. -/
def ask (port : Port) : Lookup := fun address => do
  let calls := (← get).calls
  modify (·.addCall address)
  Run.lift .fetch ((port calls).account address)

/-- Ask `fetch` unless the session has the account, and keep what it gives. A failed fetch keeps
nothing, so the next lookup asks again. -/
def cachedOver (fetch : Lookup) : Lookup := fun address => do
  match (← get).find? address with
  | some a => return a
  | none =>
    let a ← fetch address
    modify (·.addAccount address a)
    return a

/-- A lookup in the innermost enclosing cache instead of the session's own. -/
def outside (lookup : Lookup) : Lookup := fun address s =>
  let (result, after) := (lookup address).execute s.leave
  (result, after.reenter s.accounts)

/-- Ask a ledger that does not change, each time. -/
def direct (ledger : Ledger) : Lookup :=
  ask fun _ => ledger

/-- Ask a ledger that does not change, once for each account. -/
def cached (ledger : Ledger) : Lookup :=
  cachedOver (direct ledger)

/-- The data of an account that has to exist. -/
def data (lookup : Lookup) (address : Pubkey) : Run ResolveError Bytes := do
  let a ← lookup address
  if a.present then return a.data else throw (.accountMissing address)

end Lookup

end ExtraMetas

import ExtraMetas.Account.Ledger
import ExtraMetas.Settings.Basic

/-!
# ExtraMetas.NodeClient

Fetching accounts from a **node** over a connection that may fail. A failure of the transport is
answered by waiting and asking again; the wait doubles each time (`Backoff.delay`), and after a
fixed number of repetitions the failure stands. Everything else that the node answers is final.

What the node answers is a sequence (`Answers`), so that a fetch is a function of it: `fetch` says
which answer ended it, how often the node was asked, and how long was waited in between. Waiting
times are exact numbers and are rounded only where they are written down.
-/

namespace ExtraMetas.NodeClient

/-- What a node answers to one request. -/
inductive Answer
  /-- The account's data. -/
  | account (data : Bytes)
  /-- There is no such account. -/
  | missing
  /-- The request did not get through. -/
  | transportFailure (message : String)
  /-- The node refused the request. -/
  | failure (e : Failure)

/-- The node's answers, from the first request on. -/
abbrev Answers := Nat → Answer

/-- The answers of a list, whose last stays. -/
def answersOf (script : List Answer) : Answers := fun n =>
  (script[n]?.or script.getLast?).getD .missing

/-! ### Waiting -/

/-- How long a client waits before its first repetition, in seconds. -/
inductive Backoff
  /-- A number that is doubled exactly, however often. -/
  | exact (seconds : Rat)
  /-- A number that is kept as fractions are. The power of two that it is multiplied with has to be
  such a number too. -/
  | kept (seconds : Extended)
deriving DecidableEq

namespace Backoff

/-- The seconds before the first repetition. -/
def seconds : Backoff → Extended
  | exact q => .finite q
  | kept x => x

/-- The most doublings of a wait that is kept as fractions are. -/
def maxDoublings : Nat := 1023

/-- The seconds to wait after the failure of attempt `attempt`, counted from zero. -/
def delay (b : Backoff) (attempt : Nat) : Option Extended :=
  match b with
  | exact q => some (.finite (q * 2 ^ attempt))
  | kept x => if attempt ≤ maxDoublings then some (x.timesTwoTo attempt) else none

end Backoff

/-- A number of seconds with `places` places. -/
def secondsText (places : Nat) (seconds : Extended) : String :=
  seconds.round.fixed places

/-! ### Policies -/

/-- How a client asks: how often it repeats a request, how long it waits before the first
repetition, and how final an account has to be. -/
structure Policy where
  retries : Nat
  backoff : Backoff
  commitment : Option Commitment

/-- The number of repetitions unless a caller says otherwise. -/
def defaultRetries : Int := 6

/-- The wait before the first repetition unless a caller says otherwise. -/
def defaultBackoff : Backoff := .kept (.finite (1 / 4))

/-- Why a policy is refused. -/
inductive PolicyError
  | retries
  | backoff
  | commitment (text : String)
deriving DecidableEq

/-- The wording of a refused policy. -/
def PolicyError.message : PolicyError → String
  | retries => "retries must be >= 0"
  | backoff => "backoff must be >= 0"
  | commitment text => Text.Quoted.encode text ++ " is not a valid Commitment"

/-- The level of finality that a text names exactly. -/
def commitmentOf (text : String) : Except PolicyError Commitment :=
  match Commitment.ofName? text with
  | some c => .ok c
  | none => .error (.commitment text)

/-- The policy with the given numbers. No text asks for no level of finality. -/
def Policy.make (retries : Int) (backoff : Backoff) (commitment : String) :
    Except PolicyError Policy :=
  if retries < 0 then .error .retries
  else if backoff.seconds.below 0 then .error .backoff
  else if commitment = "" then .ok ⟨retries.toNat, backoff, none⟩
  else (commitmentOf commitment).map (⟨retries.toNat, backoff, some ·⟩)

/-- A client: the node it talks to, and how. -/
structure Client where
  url : String
  commitment : Commitment
  policy : Policy

/-- The client for a node and a level of finality, which has to be named exactly. -/
def Client.make (url commitment : String) (retries : Int) (backoff : Backoff) :
    Except PolicyError Client := do
  let level ← commitmentOf commitment
  let policy ← Policy.make retries backoff commitment
  return ⟨url, level, policy⟩

/-! ### Fetching -/

/-- Why a fetch gives no account. -/
inductive Error
  /-- The transport failed once too often. -/
  | transport (message : String)
  /-- The node refused. -/
  | failed (e : Failure)
  /-- The wait before the next repetition is no number of seconds. -/
  | noDelay
deriving DecidableEq

/-- The course of a fetch: its outcome, how often the node was asked, and the failures that were
waited after, each with the seconds waited. -/
structure Fetch where
  result : Except Error Account
  requests : Nat
  waits : List (String × Extended)

/-- What an answer means if it is the last. -/
def Answer.outcome : Answer → Except Error Account
  | account data => .ok ⟨true, data⟩
  | missing => .ok .missing
  | transportFailure message => .error (.transport message)
  | failure e => .error (.failed e)

/-- Ask from attempt `attempt` on, with at most `left` repetitions. -/
def fetchFrom (policy : Policy) (answers : Answers) (left attempt : Nat) : Fetch :=
  match left, answers attempt with
  | left + 1, .transportFailure message =>
    match policy.backoff.delay attempt with
    | some seconds =>
      let later := fetchFrom policy answers left (attempt + 1)
      ⟨later.result, later.requests + 1, (message, seconds) :: later.waits⟩
    | none => ⟨.error .noDelay, 1, []⟩
  | _, answer => ⟨answer.outcome, 1, []⟩

/-- Fetch an account, with the node's answers from the first request on. -/
def fetch (policy : Policy) (answers : Answers) : Fetch :=
  fetchFrom policy answers policy.retries 0

/-- The warnings of a fetch: one for each failure that was waited after. -/
def Fetch.warnings (policy : Policy) (address : Pubkey) (f : Fetch) : List String :=
  f.waits.zipIdx.map fun ((message, seconds), attempt) =>
    "getAccountInfo " ++ address.text ++ s!" failed (attempt {attempt + 1}/{policy.retries + 1}): "
      ++ message ++ "; retrying in " ++ secondsText 2 seconds ++ "s"

/-! ### A series of fetches -/

/-- One fetch of a series, and how often the connection was closed by then. -/
structure Step where
  address : Pubkey
  fetch : Fetch
  closed : Nat

/-- Fetch one address after the other. The node's answers go on from fetch to fetch, `asked` of them
being used up. With `closing`, each fetch closes the connection at its end. -/
def fetchEach (policy : Policy) (answers : Answers) (closing : Bool) :
    (asked closed : Nat) → List Pubkey → List Step
  | _, _, [] => []
  | asked, closed, address :: rest =>
    let f := fetch policy fun n => answers (asked + n)
    let closed := if closing then closed + 1 else closed
    ⟨address, f, closed⟩ :: fetchEach policy answers closing (asked + f.requests) closed rest

end ExtraMetas.NodeClient

import ExtraMetas.Resolution.Basic

/-!
# ExtraMetas.Resolution.Seed

**Resolving a seed** to its bytes, and a key source to its key. A seed names a part of the
instruction data or of an account's data, or an account whose key it is; an account is named by its
index among the known accounts.

A range is refused when it ends beyond the bytes that there are (`range`). Nothing else is asked of
its bounds, which may be any numbers in a draft.
-/

namespace ExtraMetas

/-- What drafts are resolved against: the accounts known so far and the instruction's data. -/
structure Scope where
  known : Known Meta
  instructionData : Bytes

/-- The refusal of a range that needs `size` bytes. The message names the size, so a size that
cannot be written down is an error of its own. -/
def beyond (bounds : Value → ResolveError) (size : Value) : ResolveError :=
  if size.isWritable then bounds size else .operand .tooLong

/-- The bytes of `b` in a range that a draft gives by its `start` and its `length`. A range that
ends beyond `b` is refused with `bounds`, which is given the size that would be needed. -/
def range (b : Bytes) (start length : Value) (bounds : Value → ResolveError) :
    Except ResolveError Bytes :=
  match start.add length with
  | .error e => .error (.operand e)
  | .ok stop =>
    match start.integer?, length.integer? with
    | some i, some n =>
      match b.window? i n with
      | some part => .ok part
      | none => .error (beyond bounds stop)
    | _, _ =>
      match stop.comparable ">" with
      | .error e => .error (.operand e)
      | .ok size =>
        if size.above b.length then .error (beyond bounds stop)
        else .error (.operand .sliceBound)

namespace Scope

/-- The address of the account at `index`. -/
def key (scope : Scope) (index : Value) : Run ResolveError Pubkey :=
  Run.lift .index (scope.known.key index)

/-- A range of the instruction data. -/
def instructionRange (scope : Scope) (start length : Value) : Run ResolveError Bytes :=
  Run.lift id
    (range scope.instructionData start length (.instructionDataBounds scope.instructionData.length))

/-- A range of the data of the account at `index`. -/
def accountRange (scope : Scope) (lookup : Lookup) (index start length : Value) :
    Run ResolveError Bytes := do
  let address ← scope.key index
  let data ← lookup.data address
  Run.lift id (range data start length (.accountDataBounds address data.length))

end Scope

namespace Draft

/-- The bytes of a seed. -/
def resolveSeed (lookup : Lookup) (scope : Scope) : Draft → Run ResolveError Bytes
  | literal value => pure value
  | instructionData index length => scope.instructionRange index length
  | accountKey index => return (← scope.key index).bytes
  | accountData accountIndex dataIndex length =>
    scope.accountRange lookup accountIndex dataIndex length
  | d => throw (.misplaced ⟨.seed, d⟩)

/-- The bytes of each of the seeds, resolved in order. -/
def resolveSeeds (lookup : Lookup) (scope : Scope) (seeds : List Draft) :
    Run ResolveError (List Bytes) :=
  seeds.mapM (resolveSeed lookup scope)

/-- The key that `b` is. -/
def keyOfBytes (b : Bytes) : Run ResolveError Pubkey :=
  match Pubkey.ofBytes? b with
  | some key => pure key
  | none => throw (.keySize b.length)

/-- The key that a source leads to. -/
def resolveKeySource (lookup : Lookup) (scope : Scope) : Draft → Run ResolveError Pubkey
  | instructionDataKey index => do
    keyOfBytes (← scope.instructionRange index (.int Pubkey.size))
  | accountDataKey accountIndex dataIndex => do
    keyOfBytes (← scope.accountRange lookup accountIndex dataIndex (.int Pubkey.size))
  | d => throw (.misplaced ⟨.keySource, d⟩)

end Draft

end ExtraMetas

import ExtraMetas.Resolution.Seed

/-!
# ExtraMetas.Resolution.Entry

**Resolving the entries** of a descriptor, one after the other, into the accounts that a gating
program requires. Each resolved account is known to the entries after it.

`resolveExtraMetas` is the whole run: fetch the descriptor, decode it completely, then resolve. A
missing descriptor means that the gating program asks for no extra accounts. `resolveNested` is the
same as part of another run.
-/

namespace ExtraMetas

namespace Draft

/-- The account that an entry stands for. -/
def resolveEntry (lookup : Lookup) (scope : Scope) (program : Pubkey) :
    Draft → Run ResolveError Meta
  | literalAddress address flags => pure (ofAddress address flags)
  | ownSeeds seeds flags => do
    let resolved ← resolveSeeds lookup scope seeds
    return ofAddress (← derived resolved program) flags
  | externalSeeds programIndex seeds flags => do
    let owner ← scope.key programIndex
    let resolved ← resolveSeeds lookup scope seeds
    return ofAddress (← derived resolved owner) flags
  | keyData source flags => do
    return ofAddress (← resolveKeySource lookup scope source) flags
  | d => throw (.misplaced ⟨.entry, d⟩)
where
  /-- The address with the role that the entry's flags give it. -/
  ofAddress (address : Pubkey) (flags : Flags) : Meta :=
    ⟨address, .ofFlags flags.isSigner.isSet flags.isWritable.isSet⟩
  /-- The address of the seeds under a program. -/
  derived (seeds : List Bytes) (owner : Pubkey) : Run ResolveError Pubkey :=
    Run.lift .derivation ((Address.find .standard seeds owner).map Prod.fst)

end Draft

/-- The accounts known after the given entries. -/
def resolveEntries (lookup : Lookup) (instructionData : Bytes) (program : Pubkey) :
    Known Meta → List Entry → Run ResolveError (Known Meta)
  | known, [] => pure known
  | known, entry :: rest => do
    let m ← entry.toDraft.resolveEntry lookup ⟨known, instructionData⟩ program
    Run.report (.resolved known.size m)
    resolveEntries lookup instructionData program (known.push m) rest

/-- What a caller asks of a gating program's descriptor: the accounts that are passed anyway, the
data of the instruction, the program under which own seeds are derived, and the discriminators that
the descriptor may carry, where `none` accepts any. -/
structure Request where
  baseMetas : List MetaLike
  instructionData : Bytes
  program : Pubkey
  accepted : Option (List Bytes)

/-- The base accounts followed by one account for each entry of the descriptor. -/
def resolveExtraMetas (lookup : Lookup) (descriptor : Pubkey) (request : Request) :
    Run ResolveError (List Meta) := do
  let known ← Run.lift .notMeta (Known.ofMetas request.baseMetas)
  let account ← lookup descriptor
  if account.present then
    let content ← Run.lift .malformed (Descriptor.decode account.data request.accepted)
    Run.report (.declared descriptor content.entries.length)
    let known ← resolveEntries lookup request.instructionData request.program known content.entries
    return known.toList
  else
    Run.report (.noDescriptor descriptor)
    return known.toList

/-- Resolve as part of a run that looks accounts up with `lookup`: the resolution has a cache of its
own, and what it does not find there it looks up as the run does. -/
def resolveNested (lookup : Lookup) (descriptor : Pubkey) (request : Request) :
    Run ResolveError (List Meta) :=
  (resolveExtraMetas (.cachedOver lookup.outside) descriptor request).withOwnCache

end ExtraMetas

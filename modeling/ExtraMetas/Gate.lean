import ExtraMetas.MintConfig
import ExtraMetas.Resolution.Entry

/-!
# ExtraMetas.Gate

The **gate** in front of the two permissionless operations. A token account may be thawed or
frozen by anybody if the mint's config allows it and the mint's gating program agrees; the
instruction then carries the accounts that the gating program's check needs.

* `Operation` is what tells thawing and freezing apart: the flag that allows it, the seed of the
  descriptor's address, and the discriminator of the check.
* `checkMetas` are the five accounts of every check, in order.
* `addExtraMetas` lists what a caller appends to the instruction. The instruction itself carries
  the first three accounts of the check, so these are left out, and the gating program and its
  descriptor come last.
-/

namespace ExtraMetas

/-- A permissionless operation on a token account. -/
inductive Operation
  | thaw
  | freeze
deriving DecidableEq

namespace Operation

/-- The name of an operation. -/
def name : Operation → String
  | thaw => "thaw"
  | freeze => "freeze"

/-- The first seed of the address of an operation's descriptor. -/
def descriptorSeed : Operation → Bytes
  | thaw => .ofAscii "thaw_extra_account_metas"
  | freeze => .ofAscii "freeze_extra_account_metas"

/-- The first eight bytes of the digest of a name. -/
def discriminatorOf (name : String) : Bytes :=
  (Sha256.digest (.ofAscii name)).take Layout.discriminatorSize

/-- The discriminator of the gating program's check, which is also that check's data. -/
def discriminator : Operation → Bytes
  | thaw => discriminatorOf "efficient-allow-block-list-standard:can-thaw-permissionless"
  | freeze => discriminatorOf "efficient-allow-block-list-standard:can-freeze-permissionless"

/-- The discriminators of all checks. -/
def discriminators : List Bytes :=
  [thaw.discriminator, freeze.discriminator]

/-- Does a mint's config allow the operation? -/
def allowedBy (op : Operation) (c : MintConfig) : Bool :=
  match op with
  | thaw => c.permissionlessThaw
  | freeze => c.permissionlessFreeze

/-- The address of a gating program's descriptor for the operation on a mint, with its bump. -/
def descriptorAddress (op : Operation) (mint gatingProgram : Pubkey) :
    Except Address.Error (Pubkey × UInt8) :=
  Address.find .standard [op.descriptorSeed, mint.bytes] gatingProgram

end Operation

/-- The accounts that an operation is about. -/
structure Target where
  authority : Pubkey
  tokenAccount : Pubkey
  mint : Pubkey
  tokenAccountOwner : Pubkey
deriving DecidableEq

/-- The accounts of the gating program's check, all without privileges. -/
def checkMetas (target : Target) (descriptor : Pubkey) : List Meta :=
  [target.authority, target.tokenAccount, target.mint, target.tokenAccountOwner, descriptor].map
    .readonly

/-- The accounts and the data of the gating program's check. -/
def check (op : Operation) (target : Target) (descriptor : Pubkey) : List Meta × Bytes :=
  (checkMetas target descriptor, op.discriminator)

/-- Why there are no accounts to append. -/
inductive GateError
  /-- The mint has no config. -/
  | configMissing (address : Pubkey)
  /-- The mint's config is malformed. -/
  | config (e : MintConfig.Error)
  /-- The mint's config does not allow the operation. -/
  | disabled (op : Operation) (mint : Pubkey)
  /-- The check's accounts cannot be resolved. -/
  | resolve (e : ResolveError)

/-- The wording of an error. -/
def GateError.message : GateError → String
  | configMissing address => "mint config " ++ address.text ++ " not found"
  | config e => e.message
  | disabled op mint =>
    "permissionless " ++ op.name ++ " is not enabled for mint " ++ mint.text
  | resolve e => e.message

/-- How many accounts of the check the instruction carries itself. -/
def carried : Nat := 3

/-- The mint's config at an address. -/
def readMintConfig (lookup : Lookup) (address : Pubkey) : Run GateError MintConfig := do
  let account ← (lookup address).adapt .resolve
  if account.present then Run.lift .config (MintConfig.decode account.data)
  else throw (.configMissing address)

/-- What is asked of the descriptor of a gating program. -/
def gateRequest (op : Operation) (target : Target) (gatingProgram descriptor : Pubkey) : Request :=
  ⟨(checkMetas target descriptor).map .ofMeta, op.discriminator, gatingProgram,
    some [op.discriminator]⟩

/-- The accounts to append to the instruction of an operation; none if the mint has no gating
program. -/
def addExtraMetas (lookup : Lookup) (op : Operation) (mintConfig : Pubkey) (target : Target) :
    Run GateError (List Meta) := do
  let config ← readMintConfig lookup mintConfig
  if !op.allowedBy config then throw (.disabled op config.mint)
  else if !config.hasGatingProgram then
    Run.report (.noGatingProgram config.mint)
    return []
  else
    let gatingProgram := config.gatingProgram
    let (descriptor, _) ← Run.lift (fun e => .resolve (.derivation e))
      (Address.find .standard [op.descriptorSeed, target.mint.bytes] gatingProgram)
    let resolved ← (resolveNested lookup descriptor
      (gateRequest op target gatingProgram descriptor)).adapt .resolve
    return resolved.drop carried ++ [.readonly gatingProgram, .readonly descriptor]

end ExtraMetas

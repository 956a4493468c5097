import ExtraMetas.Descriptor.Layout
import ExtraMetas.Pubkey

/-!
# ExtraMetas.Descriptor.Basic

**Descriptors**: what a gating program publishes about the extra accounts that its check needs. A
descriptor lists entries, and an entry says how one account's address comes about and with which
privileges the account is passed.

These are the types of what a descriptor account *holds*, so every index and length is a byte and
an external program's index has seven bits. What a caller wants to write into a descriptor may be
anything and is a `Draft`.
-/

namespace ExtraMetas

/-- One seed of a derived address. -/
inductive Seed
  /-- The bytes themselves. -/
  | literal (value : Bytes)
  /-- `length` bytes of the instruction data, from `index` on. -/
  | instructionData (index length : UInt8)
  /-- The key of the account at `index`. -/
  | accountKey (index : UInt8)
  /-- `length` bytes of the data of the account at `accountIndex`, from `dataIndex` on. -/
  | accountData (accountIndex dataIndex length : UInt8)
deriving DecidableEq

/-- Where an address that is not derived is read from. -/
inductive KeySource
  /-- The 32 bytes of the instruction data from `index` on. -/
  | instructionData (index : UInt8)
  /-- The 32 bytes of the data of the account at `accountIndex` from `dataIndex` on. -/
  | accountData (accountIndex dataIndex : UInt8)
deriving DecidableEq

/-- How an account's address comes about. -/
inductive AddressConfig
  /-- It is written down. -/
  | literal (address : Pubkey)
  /-- It is derived under the gating program. -/
  | ownSeeds (seeds : List Seed)
  /-- It is derived under the program whose key is the account at `programIndex`. -/
  | externalSeeds (programIndex : Fin Layout.externalSeedsFlag) (seeds : List Seed)
  /-- It is read from data. -/
  | keyData (source : KeySource)
deriving DecidableEq

/-- One extra account. -/
structure Entry where
  address : AddressConfig
  isSigner : Bool
  isWritable : Bool
deriving DecidableEq

/-- The content of a descriptor account: the instruction it is for, the declared length of the
counted part, and the entries. -/
structure Descriptor where
  discriminator : Bytes
  length : Nat
  entries : List Entry
deriving DecidableEq

end ExtraMetas

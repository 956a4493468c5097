import ExtraMetas.Descriptor.Draft
import ExtraMetas.Value.Arithmetic

/-!
# ExtraMetas.Descriptor.Encode

**Writing a descriptor account** from drafts. A draft is first checked against the type of what an
account can hold (`Draft.toSeed`, `Draft.toKeySource`, `Draft.toAddress`), field by field in the
order in which the fields are written, and the first refusal is the answer. What passed is then
laid out without further conditions (`Seed.pack`, `KeySource.pack`, `AddressConfig.pack`).
-/

namespace ExtraMetas

open Layout

/-- Why a draft cannot be written. -/
inductive EncodeError
  /-- A field that is not a whole number. -/
  | fieldKind (name : String)
  /-- A field that is not a byte. -/
  | fieldRange (name : String)
  /-- A flag that is not a byte. -/
  | byteRange
  /-- A number that does not take four bytes. -/
  | wordRange
  /-- A literal seed that no config has room for. -/
  | literalTooLong
  /-- Seeds that one config has no room for. -/
  | seedsTooLong (size : Nat)
  /-- A program index that an entry tag has no room for. -/
  | programIndexRange
  /-- A program index that cannot be added to an entry tag. -/
  | programIndexKind (e : OperandError)
  /-- A discriminator of the wrong length. -/
  | discriminatorSize
  /-- More entries than a descriptor may have. -/
  | tooManyEntries
  /-- A draft of the wrong kind. -/
  | misplaced (m : Draft.Misplaced)

/-- The wording of a refusal. -/
def EncodeError.message : EncodeError → String
  | fieldKind name => name ++ " must be an integer"
  | fieldRange name => name ++ " must fit in u8"
  | byteRange => "bytes must be in range(0, 256)"
  | wordRange => "value must fit in u32"
  | literalTooLong => s!"literal seed must be at most {maxLiteralSize} bytes"
  | seedsTooLong size => s!"packed seeds take {size} bytes, more than {configSize}"
  | programIndexRange => "program_index must be within 0..127"
  | programIndexKind e => e.message
  | discriminatorSize => s!"discriminator must be {Layout.discriminatorSize} bytes"
  | tooManyEntries => s!"at most {maxEntries} entries are allowed"
  | misplaced m => m.message

/-! ### Fields -/

/-- The byte that the value `v` of the field `name` is; a truth value is not a number here. -/
def octet (name : String) (v : Value) : Except EncodeError UInt8 :=
  match v with
  | .int n => if 0 ≤ n ∧ n ≤ 255 then .ok (UInt8.ofNat n.toNat) else .error (.fieldRange name)
  | _ => .error (.fieldKind name)

/-- The four bytes of a number, least significant first. -/
def word (n : Int) : Except EncodeError Bytes :=
  if 0 ≤ n ∧ n ≤ 0xFFFFFFFF then .ok (Bytes.ofNatLE 4 n.toNat) else .error .wordRange

/-- The byte that a flag is written as. -/
def flagByte (f : ByteField) : Except EncodeError UInt8 :=
  match f.toByte? with
  | some x => .ok x
  | none => .error .byteRange

/-- The seven-bit index that the value `v` is. Its range is looked at before its kind. -/
def programIndex (v : Value) : Except EncodeError (Fin externalSeedsFlag) :=
  match v.integer? with
  | some n =>
    if h : 0 ≤ n ∧ n < externalSeedsFlag then .ok ⟨n.toNat, (Int.toNat_lt h.1).2 h.2⟩
    else .error .programIndexRange
  | none =>
    match v.comparable "<" with
    | .error e => .error (.programIndexKind e)
    | .ok x =>
      if x.isOutside externalSeedsFlag then .error .programIndexRange
      else .error (.programIndexKind (.notInteger v.kind))

/-! ### Seeds -/

/-- The bytes of a seed: its tag and its fields. -/
def Seed.pack : Seed → Bytes
  | literal value => literalSeed :: UInt8.ofNat value.length :: value
  | instructionData index length => [instructionDataSeed, index, length]
  | accountKey index => [accountKeySeed, index]
  | accountData accountIndex dataIndex length =>
    [accountDataSeed, accountIndex, dataIndex, length]

/-- A config's bytes, filled up with zeros. -/
def padConfig (b : Bytes) : Bytes :=
  b ++ List.replicate (configSize - b.length) 0

/-- The address config that holds the seeds one behind the other. -/
def Seed.packAll (seeds : List Seed) : Bytes :=
  padConfig (seeds.flatMap Seed.pack)

/-- The seed that a draft describes. -/
def Draft.toSeed : Draft → Except EncodeError Seed
  | literal value => if maxLiteralSize < value.length then .error .literalTooLong
    else .ok (.literal value)
  | instructionData index length => do
    return .instructionData (← octet "seed.index" index) (← octet "seed.length" length)
  | accountKey index => do
    return .accountKey (← octet "seed.index" index)
  | accountData accountIndex dataIndex length => do
    return .accountData (← octet "seed.account_index" accountIndex)
      (← octet "seed.data_index" dataIndex) (← octet "seed.length" length)
  | d => .error (.misplaced ⟨.seed, d⟩)

/-- The seeds that drafts describe, if one config has room for them. -/
def Draft.toSeeds (drafts : List Draft) : Except EncodeError (List Seed) := do
  let seeds ← drafts.mapM toSeed
  let size := (seeds.flatMap Seed.pack).length
  if configSize < size then .error (.seedsTooLong size) else .ok seeds

/-! ### Addresses -/

/-- The address config of a key source. -/
def KeySource.pack : KeySource → Bytes
  | instructionData index => padConfig [instructionDataSource, index]
  | accountData accountIndex dataIndex => padConfig [accountDataSource, accountIndex, dataIndex]

/-- The key source that a draft describes. -/
def Draft.toKeySource : Draft → Except EncodeError KeySource
  | instructionDataKey index => do
    return .instructionData (← octet "source.index" index)
  | accountDataKey accountIndex dataIndex => do
    return .accountData (← octet "source.account_index" accountIndex)
      (← octet "source.data_index" dataIndex)
  | d => .error (.misplaced ⟨.keySource, d⟩)

/-- The tag and the address config of an entry. -/
def AddressConfig.pack : AddressConfig → Bytes
  | literal address => literalTag :: address.bytes
  | ownSeeds seeds => ownSeedsTag :: Seed.packAll seeds
  | externalSeeds programIndex seeds =>
    UInt8.ofNat (externalSeedsFlag + programIndex.val) :: Seed.packAll seeds
  | keyData source => keyDataTag :: source.pack

/-- The address config that a draft describes, with the flags beside it. -/
def Draft.toAddress : Draft → Except EncodeError (AddressConfig × Flags)
  | literalAddress address flags => .ok (.literal address, flags)
  | ownSeeds seeds flags => do
    return (.ownSeeds (← toSeeds seeds), flags)
  | externalSeeds index seeds flags => do
    return (.externalSeeds (← programIndex index) (← toSeeds seeds), flags)
  | keyData source flags => do
    return (.keyData (← source.toKeySource), flags)
  | d => .error (.misplaced ⟨.entry, d⟩)

/-! ### Entries and records -/

/-- The 35 bytes of the entry that a draft describes. -/
def Draft.packEntry (d : Draft) : Except EncodeError Bytes := do
  let (address, flags) ← d.toAddress
  return address.pack ++ [← flagByte flags.isSigner, ← flagByte flags.isWritable]

/-- The descriptor account for an instruction, with the entries that the drafts describe. -/
def encodeDescriptor (discriminator : Bytes) (drafts : List Draft) : Except EncodeError Bytes :=
  if discriminator.length ≠ Layout.discriminatorSize then .error .discriminatorSize
  else if maxEntries < drafts.length then .error .tooManyEntries
  else do
    let entries ← drafts.mapM Draft.packEntry
    let value := (← word drafts.length) ++ entries.flatten
    return discriminator ++ (← word value.length) ++ value

end ExtraMetas

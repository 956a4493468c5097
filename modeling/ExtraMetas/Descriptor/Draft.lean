import ExtraMetas.ByteField
import ExtraMetas.Descriptor.Basic
import ExtraMetas.Value.Basic

/-!
# ExtraMetas.Descriptor.Draft

**Drafts**: seeds, key sources and entries as a caller wrote them, before any check. A numeric
field may hold a value of any kind, a flag may be a number, and any draft may stand where another
kind was wanted, or something that is no draft at all.

`Draft.literal` is the text of a draft in a message; `Misplaced` is the refusal of a draft that
stands in the wrong place. What was decoded is a draft too (`Seed.toDraft`, `KeySource.toDraft`,
`Entry.toDraft`), so encoding and resolution have one input type.
-/

namespace ExtraMetas

/-- The privileges in a draft entry. -/
structure Flags where
  isSigner : ByteField
  isWritable : ByteField
deriving DecidableEq

/-- No privileges, which is what an entry has unless it says otherwise. -/
def Flags.none : Flags :=
  ⟨.bool false, .bool false⟩

/-- A seed, a key source, an entry, or something else, as a caller wrote it. -/
inductive Draft
  /-- A seed: the bytes themselves. -/
  | literal (value : Bytes)
  /-- A seed: part of the instruction data. -/
  | instructionData (index length : Value)
  /-- A seed: the key of an account. -/
  | accountKey (index : Value)
  /-- A seed: part of an account's data. -/
  | accountData (accountIndex dataIndex length : Value)
  /-- A key source: the instruction data. -/
  | instructionDataKey (index : Value)
  /-- A key source: an account's data. -/
  | accountDataKey (accountIndex dataIndex : Value)
  /-- An entry: the address itself. -/
  | literalAddress (address : Pubkey) (flags : Flags)
  /-- An entry: seeds under the gating program. -/
  | ownSeeds (seeds : List Draft) (flags : Flags)
  /-- An entry: seeds under the program of an account. -/
  | externalSeeds (programIndex : Value) (seeds : List Draft) (flags : Flags)
  /-- An entry: a key read from data. -/
  | keyData (source : Draft) (flags : Flags)
  /-- Anything else. -/
  | other (value : Value)

/-! ### Text -/

/-- The text of a byte in a byte literal between two `quote`s. -/
def byteLiteral (quote : Char) (x : UInt8) : List Char :=
  let c := Char.ofNat x.toNat
  if c = quote ∨ c = '\\' then ['\\', c]
  else if c = '\n' then ['\\', 'n']
  else if c = '\r' then ['\\', 'r']
  else if c = '\t' then ['\\', 't']
  else if 0x20 ≤ x.toNat ∧ x.toNat < 0x7F then [c]
  else '\\' :: 'x' :: Text.Quoted.hexDigits 2 x.toNat

/-- The literal of a byte string: ASCII as itself, everything else as escapes. -/
def bytesLiteral (b : Bytes) : String :=
  let quote := Text.Quoted.quoteFor (b.map fun x => Char.ofNat x.toNat)
  String.ofList ('b' :: quote :: b.flatMap (byteLiteral quote) ++ [quote])

/-- The literal of a key: its text on a line of its own. -/
def keyLiteral (k : Pubkey) : String :=
  "Pubkey(\n    " ++ k.text ++ ",\n)"

/-- The two flags at the end of an entry's literal. -/
def Flags.literal (f : Flags) : String :=
  ", is_signer=" ++ f.isSigner.literal ++ ", is_writable=" ++ f.isWritable.literal

/-- The literal of a fixed sequence: a single item keeps a comma. -/
def sequenceLiteral : List String → String
  | [item] => "(" ++ item ++ ",)"
  | items => "(" ++ ", ".intercalate items ++ ")"

namespace Draft

mutual

/-- The literal that stands for a draft in a message. -/
def text : Draft → String
  | literal value => "LiteralSeed(value=" ++ bytesLiteral value ++ ")"
  | instructionData index length =>
    "InstructionDataSeed(index=" ++ index.literal ++ ", length=" ++ length.literal ++ ")"
  | accountKey index => "AccountKeySeed(index=" ++ index.literal ++ ")"
  | accountData accountIndex dataIndex length =>
    "AccountDataSeed(account_index=" ++ accountIndex.literal ++ ", data_index="
      ++ dataIndex.literal ++ ", length=" ++ length.literal ++ ")"
  | instructionDataKey index => "InstructionDataPubkey(index=" ++ index.literal ++ ")"
  | accountDataKey accountIndex dataIndex =>
    "AccountDataPubkey(account_index=" ++ accountIndex.literal ++ ", data_index="
      ++ dataIndex.literal ++ ")"
  | literalAddress address flags =>
    "LiteralAddress(address=" ++ keyLiteral address ++ flags.literal ++ ")"
  | ownSeeds seeds flags =>
    "SelfProgramSeeds(seeds=" ++ sequenceLiteral (texts seeds) ++ flags.literal ++ ")"
  | externalSeeds programIndex seeds flags =>
    "ExternalProgramSeeds(program_index=" ++ programIndex.literal ++ ", seeds="
      ++ sequenceLiteral (texts seeds) ++ flags.literal ++ ")"
  | keyData source flags =>
    "PubkeyDataAddress(source=" ++ source.text ++ flags.literal ++ ")"
  | other value => value.literal

/-- The literals of several drafts. -/
def texts : List Draft → List String
  | [] => []
  | d :: rest => d.text :: texts rest

end

/-- What a place in a descriptor takes. -/
inductive Place
  | seed
  | keySource
  | entry
deriving DecidableEq

/-- A draft in a place that does not take its kind. -/
structure Misplaced where
  place : Place
  draft : Draft

/-- The wording of the refusal. -/
def Misplaced.message (m : Misplaced) : String :=
  let noun := match m.place with
    | .seed => "seed"
    | .keySource => "pubkey data"
    | .entry => "extra account meta"
  "unsupported " ++ noun ++ ": " ++ m.draft.text

end Draft

/-! ### Drafts of what was decoded -/

/-- A byte as the value of a draft's field. -/
def Value.ofByte (x : UInt8) : Value :=
  .int x.toNat

/-- The draft of a decoded seed. -/
def Seed.toDraft : Seed → Draft
  | literal value => .literal value
  | instructionData index length => .instructionData (.ofByte index) (.ofByte length)
  | accountKey index => .accountKey (.ofByte index)
  | accountData accountIndex dataIndex length =>
    .accountData (.ofByte accountIndex) (.ofByte dataIndex) (.ofByte length)

/-- The draft of a decoded key source. -/
def KeySource.toDraft : KeySource → Draft
  | instructionData index => .instructionDataKey (.ofByte index)
  | accountData accountIndex dataIndex =>
    .accountDataKey (.ofByte accountIndex) (.ofByte dataIndex)

/-- The draft of a decoded entry. -/
def Entry.toDraft (e : Entry) : Draft :=
  let flags : Flags := ⟨.bool e.isSigner, .bool e.isWritable⟩
  match e.address with
  | .literal address => .literalAddress address flags
  | .ownSeeds seeds => .ownSeeds (seeds.map Seed.toDraft) flags
  | .externalSeeds programIndex seeds =>
    .externalSeeds (.int programIndex.val) (seeds.map Seed.toDraft) flags
  | .keyData source => .keyData source.toDraft flags

end ExtraMetas

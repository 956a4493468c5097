import ExtraMetas.ByteField
import ExtraMetas.Pubkey

/-!
# ExtraMetas.MintConfig

**Mint configs**: the record of 100 bytes in which the freeze and thaw program keeps what it needs
to know about a mint. It is a tag, three keys, the bump of its own address, and one flag for each
of the two permissionless operations.
-/

namespace ExtraMetas

/-- The content of a mint config account. -/
structure MintConfig where
  mint : Pubkey
  freezeAuthority : Pubkey
  gatingProgram : Pubkey
  bump : UInt8
  permissionlessThaw : Bool
  permissionlessFreeze : Bool
deriving DecidableEq

namespace MintConfig

/-- The tag of the record. -/
def discriminator : UInt8 := 1

/-- The bytes of the record. -/
def recordSize : Nat := 1 + 32 + 32 + 32 + 1 + 1 + 1

/-- Why bytes are no mint config, or a draft of one cannot be written. -/
inductive Error
  /-- The record has another size. -/
  | size (found : Nat)
  /-- The record has another tag. -/
  | discriminator (found : UInt8)
  /-- A field that is written as one byte is none. -/
  | byteRange
deriving DecidableEq

/-- The wording of an error. -/
def Error.message : Error → String
  | size found => s!"mint config must be {recordSize} bytes, got {found}"
  | discriminator found => s!"unexpected mint config discriminator {found}"
  | byteRange => "bytes must be in range(0, 256)"

/-- Does the mint have a gating program? -/
def hasGatingProgram (c : MintConfig) : Bool :=
  c.gatingProgram != .zero

/-- The key in the 32 bytes of `b` from `offset` on. -/
def keyAt (b : Bytes) (offset : Nat) : Option Pubkey :=
  Pubkey.ofBytes? ((b.drop offset).take 32)

/-- The mint config in exactly 100 bytes. A flag is set iff its byte is not zero. -/
def decode (b : Bytes) : Except Error MintConfig :=
  match b[0]?, keyAt b 1, keyAt b 33, keyAt b 65, b.drop 97 with
  | some tag, some mint, some freezeAuthority, some gatingProgram, [bump, thaw, freeze] =>
    if tag = MintConfig.discriminator then
      .ok ⟨mint, freezeAuthority, gatingProgram, bump, thaw != 0, freeze != 0⟩
    else .error (.discriminator tag)
  | _, _, _, _, _ => .error (.size b.length)

/-- The 97 bytes in front of the last three. -/
def encodeKeys (mint freezeAuthority gatingProgram : Pubkey) : Bytes :=
  MintConfig.discriminator :: (mint.bytes ++ freezeAuthority.bytes ++ gatingProgram.bytes)

/-- The 100 bytes of a mint config. -/
def encode (c : MintConfig) : Bytes :=
  encodeKeys c.mint c.freezeAuthority c.gatingProgram
    ++ [c.bump, if c.permissionlessThaw then 1 else 0, if c.permissionlessFreeze then 1 else 0]

/-- A mint config as a caller wrote it, whose last three fields may not be bytes. -/
structure Draft where
  mint : Pubkey
  freezeAuthority : Pubkey
  gatingProgram : Pubkey
  bump : ByteField
  permissionlessThaw : ByteField
  permissionlessFreeze : ByteField

/-- The 100 bytes that a draft is written as. -/
def Draft.encode (d : Draft) : Except Error Bytes :=
  match d.bump.toByte?, d.permissionlessThaw.toByte?, d.permissionlessFreeze.toByte? with
  | some bump, some thaw, some freeze =>
    .ok (encodeKeys d.mint d.freezeAuthority d.gatingProgram ++ [bump, thaw, freeze])
  | _, _, _ => .error .byteRange

end MintConfig

end ExtraMetas

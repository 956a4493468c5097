import ExtraMetas.Bytes

/-!
# ExtraMetas.Descriptor.Layout

The **layout** of a descriptor account: one record of

* 8 bytes, the discriminator of the gated instruction,
* 4 bytes, the length of what follows them (little-endian),
* 4 bytes, the number of entries (little-endian),
* 35 bytes for each entry: a tag, a 32-byte address config, and two flag bytes.

Sizes, tags and limits are named here once, for the decoder and the encoder.
-/

namespace ExtraMetas.Layout

/-! ### Record -/

/-- The bytes of the instruction discriminator. -/
def discriminatorSize : Nat := 8

/-- The bytes of the length field. -/
def lengthSize : Nat := 4

/-- The bytes of the count field. -/
def countSize : Nat := 4

/-- The bytes in front of the counted ones. -/
def headerSize : Nat := discriminatorSize + lengthSize

/-- The bytes of an address config. -/
def configSize : Nat := 32

/-- The bytes of an entry: tag, address config, signer flag, writable flag. -/
def entrySize : Nat := 1 + configSize + 1 + 1

/-- The most entries of a descriptor. -/
def maxEntries : Nat := 32

/-- The bytes of a whole record with `count` entries, for a count of any sign. -/
def recordSize (count : Int) : Int :=
  headerSize + countSize + entrySize * count

/-! ### Entry tags -/

/-- The address itself. -/
def literalTag : UInt8 := 0

/-- Seeds under the gating program. -/
def ownSeedsTag : UInt8 := 1

/-- A key read from data. -/
def keyDataTag : UInt8 := 2

/-- The tags from here on mean seeds under another program; the excess is the program's index. -/
def externalSeedsFlag : Nat := 128

theorem ne_of_externalSeedsFlag_le {tag other : UInt8} (htag : externalSeedsFlag ≤ tag.toNat)
    (hother : other.toNat < externalSeedsFlag) : tag ≠ other := by
  rintro rfl
  omega

/-! ### Seed tags -/

/-- No more seeds. -/
def seedEnd : UInt8 := 0

/-- A length and that many bytes. -/
def literalSeed : UInt8 := 1

/-- An index and a length into the instruction data. -/
def instructionDataSeed : UInt8 := 2

/-- The index of an account whose key is the seed. -/
def accountKeySeed : UInt8 := 3

/-- The index of an account, and an index and a length into its data. -/
def accountDataSeed : UInt8 := 4

/-- The most bytes of a literal seed: a config less the tag and the length. -/
def maxLiteralSize : Nat := configSize - 2

/-! ### Key source tags -/

/-- An index into the instruction data. -/
def instructionDataSource : UInt8 := 1

/-- The index of an account, and an index into its data. -/
def accountDataSource : UInt8 := 2

end ExtraMetas.Layout

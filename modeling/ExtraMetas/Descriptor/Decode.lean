import ExtraMetas.Descriptor.Basic

/-!
# ExtraMetas.Descriptor.Decode

**Reading a descriptor account.** The account may come from anybody, so every structural rule is
checked, and a violation is a `DecodeError` that names it; nothing partial is returned.

* `Seed.decodeAll` reads seeds off the front of an address config until a zero tag or its end.
* `Entry.decode` reads the 35 bytes of an entry.
* `Descriptor.decode` checks the header, in the order in which its fields stand, and then reads as
  many entries as it counts. Bytes after the record are not looked at.
-/

namespace ExtraMetas

open Layout

/-- Which rule of the layout is violated. -/
inductive DecodeError
  /-- The account is too short for a header and a count. -/
  | tooShort (size : Nat)
  /-- The descriptor is for an instruction that was not asked for. -/
  | discriminator (found : Bytes)
  /-- The record ends beyond the account. -/
  | lengthExceeds (length available : Nat)
  /-- The record cannot hold a count. -/
  | lengthBelowCount (length : Nat)
  /-- More entries than a descriptor may have. -/
  | tooManyEntries (count : Nat)
  /-- The record's length is not that of its entries. -/
  | lengthMismatch (length count expected : Nat)
  /-- An entry of the wrong size. -/
  | entrySize
  /-- An entry tag without meaning. -/
  | entryTag (tag : UInt8)
  /-- An address config of the wrong size. -/
  | configSize
  /-- A literal seed without its length. -/
  | literalWithoutLength
  /-- A literal seed that ends beyond the config. -/
  | literalOverrun (length : UInt8)
  /-- An instruction data seed that ends beyond the config. -/
  | instructionDataOverrun
  /-- An account key seed that ends beyond the config. -/
  | accountKeyOverrun
  /-- An account data seed that ends beyond the config. -/
  | accountDataOverrun
  /-- A seed tag without meaning. -/
  | seedTag (tag : UInt8)
  /-- A key source tag without meaning. -/
  | sourceTag (tag : UInt8)
  /-- A key source that ends beyond the bytes given. -/
  | sourceOverrun
  /-- A key of the wrong length. -/
  | keySize (size : Nat)
deriving DecidableEq

/-- The wording of a violation. -/
def DecodeError.message : DecodeError → String
  | tooShort size => s!"descriptor is {size} bytes, shorter than the TLV header"
  | discriminator found => "unexpected discriminator " ++ found.toHex
  | lengthExceeds length available =>
    s!"declared length {length} exceeds the {available} available bytes"
  | lengthBelowCount length => s!"declared length {length} too short for the entry count"
  | tooManyEntries count => s!"entry count {count} exceeds {maxEntries}"
  | lengthMismatch length count expected =>
    s!"declared length {length} does not match {count} entries ({expected})"
  | entrySize => s!"entry must be {Layout.entrySize} bytes"
  | entryTag tag => s!"unknown entry discriminator {tag}"
  | configSize => s!"address config must be {Layout.configSize} bytes"
  | literalWithoutLength => "literal seed length byte missing"
  | literalOverrun length => s!"literal seed of {length} bytes overruns address config"
  | instructionDataOverrun => "instruction data seed overruns address config"
  | accountKeyOverrun => "account key seed overruns address config"
  | accountDataOverrun => "account data seed overruns address config"
  | seedTag tag => s!"unknown seed tag {tag}"
  | sourceTag tag => s!"unknown pubkey data tag {tag}"
  | sourceOverrun => "index out of range"
  | keySize size => s!"a key has 32 bytes, not {size}"

/-! ### Address configs -/

/-- The first seed in front of a config's remaining bytes, and what remains after it; `none` at a
zero tag and at the end of the config. -/
def Seed.decodeNext : Bytes → Except DecodeError (Option (Seed × Bytes))
  | [] => .ok none
  | tag :: rest =>
    if tag = seedEnd then .ok none
    else if tag = literalSeed then
      match rest with
      | length :: rest =>
        if rest.length < length.toNat then .error (.literalOverrun length)
        else .ok (some (.literal (rest.take length.toNat), rest.drop length.toNat))
      | [] => .error .literalWithoutLength
    else if tag = instructionDataSeed then
      match rest with
      | index :: length :: rest => .ok (some (.instructionData index length, rest))
      | _ => .error .instructionDataOverrun
    else if tag = accountKeySeed then
      match rest with
      | index :: rest => .ok (some (.accountKey index, rest))
      | _ => .error .accountKeyOverrun
    else if tag = accountDataSeed then
      match rest with
      | account :: index :: length :: rest => .ok (some (.accountData account index length, rest))
      | _ => .error .accountDataOverrun
    else .error (.seedTag tag)

/-- A seed takes up at least its tag. -/
theorem Seed.length_lt_of_decodeNext {b rest : Bytes} {seed : Seed}
    (h : Seed.decodeNext b = .ok (some (seed, rest))) : rest.length < b.length := by
  unfold Seed.decodeNext at h
  repeat' split at h
  all_goals
    simp only [Except.ok.injEq, Option.some.injEq, Prod.mk.injEq, reduceCtorEq] at h
  all_goals
    obtain ⟨-, rfl⟩ := h
    simp only [List.length_cons, List.length_drop]
    omega

/-- The seeds in front of a config's remaining bytes, up to the first zero tag or the end. -/
def Seed.decodeFrom (b : Bytes) : Except DecodeError (List Seed) :=
  match _h : Seed.decodeNext b with
  | .error e => .error e
  | .ok none => .ok []
  | .ok (some (seed, rest)) =>
    match Seed.decodeFrom rest with
    | .error e => .error e
    | .ok seeds => .ok (seed :: seeds)
termination_by b.length
decreasing_by exact Seed.length_lt_of_decodeNext ‹_›

/-- The seeds of an address config. -/
def Seed.decodeAll (config : Bytes) : Except DecodeError (List Seed) :=
  if config.length = Layout.configSize then Seed.decodeFrom config else .error .configSize

/-- The key source at the front of an address config. -/
def KeySource.decode : Bytes → Except DecodeError KeySource
  | [] => .error .sourceOverrun
  | tag :: rest =>
    if tag = instructionDataSource then
      match rest with
      | index :: _ => .ok (.instructionData index)
      | _ => .error .sourceOverrun
    else if tag = accountDataSource then
      match rest with
      | account :: index :: _ => .ok (.accountData account index)
      | _ => .error .sourceOverrun
    else .error (.sourceTag tag)

/-- The address config under an entry's tag. -/
def AddressConfig.decode (tag : UInt8) (config : Bytes) : Except DecodeError AddressConfig :=
  if tag = literalTag then
    match Pubkey.ofBytes? config with
    | some address => .ok (.literal address)
    | none => .error (.keySize config.length)
  else if tag = ownSeedsTag then (Seed.decodeAll config).map .ownSeeds
  else if tag = keyDataTag then (KeySource.decode config).map .keyData
  else if h : externalSeedsFlag ≤ tag.toNat then
    (Seed.decodeAll config).map
      (.externalSeeds ⟨tag.toNat - externalSeedsFlag, by
        have := tag.toNat_lt
        simp only [externalSeedsFlag] at h ⊢
        omega⟩)
  else .error (.entryTag tag)

theorem AddressConfig.decode_externalSeeds {tag : UInt8} {index : Fin externalSeedsFlag}
    (htag : tag.toNat = externalSeedsFlag + index.val) (config : Bytes) :
    AddressConfig.decode tag config = (Seed.decodeAll config).map (.externalSeeds index) := by
  have hflag : externalSeedsFlag ≤ tag.toNat := by omega
  have hindex : tag.toNat - externalSeedsFlag = index.val := by omega
  rw [AddressConfig.decode, if_neg (ne_of_externalSeedsFlag_le hflag (by decide)),
    if_neg (ne_of_externalSeedsFlag_le hflag (by decide)),
    if_neg (ne_of_externalSeedsFlag_le hflag (by decide)), dif_pos hflag]
  simp only [hindex]

/-! ### Entries and records -/

/-- The entry in exactly 35 bytes. A flag is set iff its byte is not zero. -/
def Entry.decode (raw : Bytes) : Except DecodeError Entry :=
  match raw.head?, raw.drop (1 + Layout.configSize) with
  | some tag, [signer, writable] =>
    match AddressConfig.decode tag ((raw.drop 1).take Layout.configSize) with
    | .ok address => .ok ⟨address, signer != 0, writable != 0⟩
    | .error e => .error e
  | _, _ => .error .entrySize

/-- The first `count` entries of `b`. -/
def Entry.decodeMany : (count : Nat) → (b : Bytes) → Except DecodeError (List Entry)
  | 0, _ => .ok []
  | count + 1, b =>
    match Entry.decode (b.take Layout.entrySize) with
    | .error e => .error e
    | .ok entry =>
      match Entry.decodeMany count (b.drop Layout.entrySize) with
      | .error e => .error e
      | .ok entries => .ok (entry :: entries)

/-- The descriptor that an account holds. `accepted` restricts the discriminators that may lead
it; `none` accepts any. -/
def Descriptor.decode (data : Bytes) (accepted : Option (List Bytes)) :
    Except DecodeError Descriptor :=
  let discriminator := data.take discriminatorSize
  let length := data.readU32 discriminatorSize
  let value : Bytes := (data.drop headerSize).take length
  let count := value.readU32 0
  let expected := countSize + Layout.entrySize * count
  if data.length < headerSize + countSize then .error (.tooShort data.length)
  else if accepted.any (fun known => !known.contains discriminator) then
    .error (.discriminator discriminator)
  else if data.length < headerSize + length then
    .error (.lengthExceeds length (data.length - headerSize))
  else if length < countSize then .error (.lengthBelowCount length)
  else if maxEntries < count then .error (.tooManyEntries count)
  else if length ≠ expected then .error (.lengthMismatch length count expected)
  else (Entry.decodeMany count (value.drop countSize)).map (⟨discriminator, length, ·⟩)

end ExtraMetas

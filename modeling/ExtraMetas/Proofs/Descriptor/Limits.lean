import ExtraMetas.Proofs.Descriptor.RoundTrip
import Mathlib.Algebra.GroupWithZero.Nat

/-!
# ExtraMetas.Proofs.Descriptor.Limits

**What can be written as a descriptor** (`encodeDescriptor_iff_fits`). The encoder meets its limits
in passing: a field that is no byte, a literal that is too long, seeds that one config has no room
for, a program index of more than seven bits, a flag that is no byte, too many entries. Here they
stand side by side (`FitsRecord`), without the bytes that are written.

The walk through the encoder adds them up with one lemma for each of its functions
(`Except.SucceedsIff`). Each lemma also says that a draft beyond its limits is refused for a value
(`EncodeError.isOfValue`), which is why the drafts have to stand in places of their kind.
-/

namespace ExtraMetas

open Layout

/-! ### Kinds -/

/-- Is a value refused, for its own sake or for the room it takes? The other refusals are of a draft
in the place of another kind, and of a program index that cannot be compared or added. -/
def EncodeError.isOfValue : EncodeError → Bool
  | programIndexKind _ | misplaced _ => false
  | _ => true

namespace Draft

/-- Is the draft one of a seed? -/
def isSeed : Draft → Bool
  | literal _ | instructionData _ _ | accountKey _ | accountData _ _ _ => true
  | _ => false

/-- Is the draft one of a key source? -/
def isKeySource : Draft → Bool
  | instructionDataKey _ | accountDataKey _ _ => true
  | _ => false

/-- Is the draft one of an entry, with seeds and key sources in their places and a number for its
program index? Its other numeric fields may hold anything. -/
def isEntry : Draft → Bool
  | literalAddress _ _ => true
  | ownSeeds seeds _ => seeds.all isSeed
  | externalSeeds index seeds _ => index.integer?.isSome && seeds.all isSeed
  | keyData source _ => source.isKeySource
  | _ => false

end Draft

/-! ### Limits -/

/-- The value is a whole number that one byte has room for. -/
def Value.IsOctet : Value → Prop
  | int n => 0 ≤ n ∧ n ≤ 255
  | _ => False

/-- Both flags are numbers that one byte has room for. -/
def Flags.Fit (flags : Flags) : Prop :=
  (0 ≤ flags.isSigner.toInt ∧ flags.isSigner.toInt ≤ 255) ∧
    (0 ≤ flags.isWritable.toInt ∧ flags.isWritable.toInt ≤ 255)

namespace Draft

/-- The bytes that a seed takes in a config. -/
def packedSize : Draft → Nat
  | literal value => 2 + value.length
  | instructionData _ _ => 3
  | accountKey _ => 2
  | accountData _ _ _ => 4
  | _ => 0

/-- A seed keeps its limits. -/
def FitsSeed : Draft → Prop
  | literal value => value.length ≤ 30
  | instructionData index length => index.IsOctet ∧ length.IsOctet
  | accountKey index => index.IsOctet
  | accountData account index length => account.IsOctet ∧ index.IsOctet ∧ length.IsOctet
  | _ => False

/-- Each of the seeds keeps its limits, and one config has room for them all. -/
def FitSeeds (seeds : List Draft) : Prop :=
  (∀ seed ∈ seeds, seed.FitsSeed) ∧ (seeds.map packedSize).sum ≤ 32

/-- A key source keeps its limits. -/
def FitsKeySource : Draft → Prop
  | instructionDataKey index => index.IsOctet
  | accountDataKey account index => account.IsOctet ∧ index.IsOctet
  | _ => False

/-- The address of an entry keeps its limits. -/
def FitsAddress : Draft → Prop
  | literalAddress _ _ => True
  | ownSeeds seeds _ => FitSeeds seeds
  | externalSeeds index seeds _ =>
    (∃ n, index.integer? = some n ∧ 0 ≤ n ∧ n ≤ 127) ∧ FitSeeds seeds
  | keyData source _ => source.FitsKeySource
  | _ => False

/-- The flags of an entry. -/
def flags : Draft → Flags
  | literalAddress _ flags | ownSeeds _ flags | externalSeeds _ _ flags | keyData _ flags => flags
  | _ => .none

/-- An entry keeps its limits. -/
def FitsEntry (d : Draft) : Prop :=
  d.FitsAddress ∧ d.flags.Fit

end Draft

/-- A descriptor keeps its limits. -/
structure FitsRecord (discriminator : Bytes) (drafts : List Draft) : Prop where
  discriminator : discriminator.length = 8
  count : drafts.length ≤ 32
  entries : ∀ d ∈ drafts, d.FitsEntry

/-! ### Fields -/

theorem succeedsIff_octet (name : String) (v : Value) :
    Except.SucceedsIff v.IsOctet (octet name v) (fun _ => True) (·.isOfValue = true) := by
  cases v with
  | int n =>
      by_cases hn : 0 ≤ n ∧ n ≤ 255
      · rw [octet, if_pos hn]
        exact ⟨hn, trivial⟩
      · rw [octet, if_neg hn]
        exact ⟨hn, rfl⟩
  | _ => exact ⟨id, rfl⟩

theorem succeedsIff_flagByte (f : ByteField) :
    Except.SucceedsIff (0 ≤ f.toInt ∧ f.toInt ≤ 255) (flagByte f) (fun _ => True)
      (·.isOfValue = true) := by
  by_cases hf : 0 ≤ f.toInt ∧ f.toInt ≤ 255
  · rw [flagByte, ByteField.toByte?, if_pos hf]
    exact ⟨hf, trivial⟩
  · rw [flagByte, ByteField.toByte?, if_neg hf]
    exact ⟨hf, rfl⟩

/-- A program index that is a number is refused for its range only. -/
theorem succeedsIff_programIndex {v : Value} (h : v.integer?.isSome = true) :
    Except.SucceedsIff (∃ n, v.integer? = some n ∧ 0 ≤ n ∧ n ≤ 127) (programIndex v)
      (fun _ => True) (·.isOfValue = true) := by
  obtain ⟨n, hn⟩ := Option.isSome_iff_exists.1 h
  rw [programIndex, hn]
  dsimp only
  by_cases hrange : 0 ≤ n ∧ n < externalSeedsFlag
  · have hlast : n < 128 := hrange.2
    rw [dif_pos hrange]
    exact ⟨⟨n, rfl, hrange.1, by omega⟩, trivial⟩
  · rw [dif_neg hrange]
    refine ⟨?_, rfl⟩
    intro hfits
    obtain ⟨m, hm, hzero, hlast⟩ := hfits
    cases hm
    have hlt : n < 128 := by omega
    exact hrange ⟨hzero, hlt⟩

/-! ### Seeds and key sources -/

/-- A seed that keeps its limits is written, and takes the bytes of its kind. -/
theorem Draft.succeedsIff_toSeed {d : Draft} (h : d.isSeed = true) :
    Except.SucceedsIff d.FitsSeed d.toSeed (·.pack.length = d.packedSize)
      (·.isOfValue = true) := by
  cases d with
  | literal value =>
      by_cases hlong : maxLiteralSize < value.length
      · rw [Draft.toSeed, if_pos hlong]
        exact ⟨Nat.not_le.2 hlong, rfl⟩
      · rw [Draft.toSeed, if_neg hlong]
        refine ⟨Nat.le_of_not_lt hlong, ?_⟩
        simp only [Seed.pack, packedSize, List.length_cons]
        omega
  | instructionData index length =>
      exact (succeedsIff_octet _ index).bind fun x _ =>
        (succeedsIff_octet _ length).bind_pure fun y _ => rfl
  | accountKey index => exact (succeedsIff_octet _ index).bind_pure fun x _ => rfl
  | accountData account index length =>
      exact (succeedsIff_octet _ account).bind fun x _ =>
        (succeedsIff_octet _ index).bind fun y _ =>
          (succeedsIff_octet _ length).bind_pure fun z _ => rfl
  | _ => cases h

theorem Draft.length_flatMap_pack {drafts : List Draft} {seeds : List Seed}
    (h : List.Forall₂ (fun d seed => (Seed.pack seed).length = packedSize d) drafts seeds) :
    (seeds.flatMap Seed.pack).length = (drafts.map packedSize).sum := by
  induction h with
  | nil => rfl
  | cons hsize _ ih => simp [hsize, ih]

theorem Draft.succeedsIff_toSeeds {drafts : List Draft} (h : drafts.all isSeed = true) :
    Except.SucceedsIff (FitSeeds drafts) (toSeeds drafts) (fun _ => True)
      (·.isOfValue = true) := by
  have hkinds := List.all_eq_true.1 h
  refine (Except.SucceedsIff.mapM fun d hd => succeedsIff_toSeed (hkinds d hd)).bind ?_
  intro seeds hseeds
  have hsize := length_flatMap_pack hseeds
  dsimp only
  rw [hsize]
  by_cases hroom : configSize < (drafts.map packedSize).sum
  · rw [if_pos hroom]
    exact ⟨Nat.not_le.2 hroom, rfl⟩
  · rw [if_neg hroom]
    exact ⟨Nat.le_of_not_lt hroom, trivial⟩

theorem Draft.succeedsIff_toKeySource {d : Draft} (h : d.isKeySource = true) :
    Except.SucceedsIff d.FitsKeySource d.toKeySource (fun _ => True) (·.isOfValue = true) := by
  cases d with
  | instructionDataKey index => exact (succeedsIff_octet _ index).bind_pure fun _ _ => trivial
  | accountDataKey account index =>
      exact (succeedsIff_octet _ account).bind fun _ _ =>
        (succeedsIff_octet _ index).bind_pure fun _ _ => trivial
  | _ => cases h

/-! ### Entries and records -/

theorem Draft.succeedsIff_toAddress {d : Draft} (h : d.isEntry = true) :
    Except.SucceedsIff d.FitsAddress d.toAddress (·.2 = d.flags) (·.isOfValue = true) := by
  cases d with
  | literalAddress address flags => exact ⟨trivial, rfl⟩
  | ownSeeds seeds flags => exact (succeedsIff_toSeeds h).bind_pure fun _ _ => rfl
  | externalSeeds index seeds flags =>
      obtain ⟨hindex, hseeds⟩ := (Bool.and_eq_true _ _).mp h
      exact (succeedsIff_programIndex hindex).bind fun _ _ =>
        (succeedsIff_toSeeds hseeds).bind_pure fun _ _ => rfl
  | keyData source flags => exact (succeedsIff_toKeySource h).bind_pure fun _ _ => rfl
  | _ => cases h

theorem Draft.succeedsIff_packEntry {d : Draft} (h : d.isEntry = true) :
    Except.SucceedsIff d.FitsEntry d.packEntry (fun _ => True) (·.isOfValue = true) := by
  refine (succeedsIff_toAddress h).bind ?_
  intro p hflags
  obtain ⟨address, flags⟩ := p
  dsimp only at hflags ⊢
  rw [hflags]
  exact (succeedsIff_flagByte _).bind fun _ _ =>
    (succeedsIff_flagByte _).bind_pure fun _ _ => trivial

/-- A record declares the length of what follows its header, and the number of its entries. -/
theorem Bytes.declared_record {discriminator body : Bytes} {count : Nat}
    (hdiscriminator : discriminator.length = 8) (hcount : count ≤ 32)
    (hbody : body.length = 35 * count) :
    let record := discriminator ++ ofNatLE 4 (countSize + body.length) ++ (ofNatLE 4 count ++ body)
    record.length = recordSize count ∧ headerSize + record.readU32 8 = record.length ∧
      record.readU32 12 = count := by
  intro record
  have hlength : record.length = 16 + 35 * count := by
    simp only [record, List.length_append, length_ofNatLE, hdiscriminator, hbody, countSize]
    omega
  have hdeclared := readU32_append (n := countSize + body.length) (by rw [countSize]; omega)
    discriminator (ofNatLE 4 count ++ body)
  have hentries := readU32_append (n := count) (by omega)
    (discriminator ++ ofNatLE 4 (countSize + body.length)) body
  rw [hdiscriminator] at hdeclared
  rw [List.length_append, length_ofNatLE, hdiscriminator, List.append_assoc] at hentries
  refine ⟨?_, ?_, hentries⟩
  · simp only [hlength, recordSize, headerSize, discriminatorSize, lengthSize, countSize, entrySize,
      configSize]
    omega
  · rw [hlength, show record.readU32 8 = countSize + body.length from hdeclared, hbody]
    simp only [headerSize, discriminatorSize, lengthSize, countSize]
    omega

/-- A descriptor that keeps its limits is written, as a record that declares its own size. -/
theorem succeedsIff_encodeDescriptor (discriminator : Bytes) {drafts : List Draft}
    (h : ∀ d ∈ drafts, d.isEntry = true) :
    Except.SucceedsIff (FitsRecord discriminator drafts) (encodeDescriptor discriminator drafts)
      (fun record => record.length = recordSize drafts.length ∧
        headerSize + record.readU32 8 = record.length ∧ record.readU32 12 = drafts.length)
      (·.isOfValue = true) := by
  by_cases hsize : discriminator.length = discriminatorSize
  · by_cases hcount : drafts.length ≤ maxEntries
    · have hentries := Except.SucceedsIff.mapM fun d hd => Draft.succeedsIff_packEntry (h d hd)
      cases hraws : drafts.mapM Draft.packEntry with
      | error e =>
          rw [hraws] at hentries
          rw [encodeDescriptor_of_refused hsize hcount hraws]
          exact ⟨fun hfits => hentries.1 hfits.entries, hentries.2⟩
      | ok raws =>
          rw [hraws] at hentries
          have hblocks := Except.mapM_eq_ok_iff.1 hraws
          rw [encodeDescriptor_of_blocks hsize hcount hblocks]
          exact ⟨⟨hsize, hcount, hentries.1⟩, Bytes.declared_record hsize hcount
            (Draft.length_flatten_of_packEntry hblocks)⟩
    · rw [encodeDescriptor, if_neg (not_not.2 hsize), if_pos (Nat.lt_of_not_le hcount)]
      exact ⟨fun hfits => hcount hfits.count, rfl⟩
  · rw [encodeDescriptor, if_pos hsize]
    exact ⟨fun hfits => hsize hfits.discriminator, rfl⟩

/-- **The limits are exact.** Entries with their parts in place can be written as a descriptor iff
the discriminator, their number and each of them keep their limits. What is written then has the
size that the number of entries asks for, and declares that size and that number. Otherwise a value
is refused. -/
theorem encodeDescriptor_iff_fits (discriminator : Bytes) {drafts : List Draft}
    (h : ∀ d ∈ drafts, d.isEntry = true) :
    ((∃ record, encodeDescriptor discriminator drafts = .ok record) ↔
        FitsRecord discriminator drafts) ∧
      (∀ record, encodeDescriptor discriminator drafts = .ok record →
        record.length = recordSize drafts.length ∧
          headerSize + record.readU32 8 = record.length ∧ record.readU32 12 = drafts.length) ∧
      (¬ FitsRecord discriminator drafts →
        ∃ e, encodeDescriptor discriminator drafts = .error e ∧ e.isOfValue = true) := by
  have houtcome := succeedsIff_encodeDescriptor discriminator h
  exact ⟨houtcome.exists_ok_iff, fun record hrecord => houtcome.of_ok hrecord,
    houtcome.exists_error⟩

/-- Seeds of 32 bytes, a program index of 127 and a flag of 255 can be written. One more empty
literal has no room in the config, and a program index of 128 none in the tag. -/
theorem encodeDescriptor_iff_fits_last_byte :
    let seeds : List Draft := [.literal (List.replicate 23 7),
      .accountData (.int 255) (.int 0) (.int 255), .instructionData (.int 0) (.int 255)]
    let entry (index : Int) (seeds : List Draft) : Draft :=
      .externalSeeds (.int index) seeds ⟨.int 255, .bool true⟩
    let write (d : Draft) := encodeDescriptor (List.replicate 8 1) [d]
    (∀ d ∈ [entry 127 seeds, entry 127 (.literal [] :: seeds), entry 128 seeds],
        d.isEntry = true) ∧
      (∃ record, write (entry 127 seeds) = .ok record ∧ record.length = 51 ∧
        record.readU32 8 = 39 ∧ record.readU32 12 = 1) ∧
      (∃ e, write (entry 127 (.literal [] :: seeds)) = .error e ∧ e.isOfValue = true) ∧
      ∃ e, write (entry 128 seeds) = .error e ∧ e.isOfValue = true := by
  intro seeds entry write
  have hkinds : ∀ d ∈ [entry 127 seeds, entry 127 (.literal [] :: seeds), entry 128 seeds],
      d.isEntry = true := by decide
  have hlimits : ∀ d ∈ [entry 127 seeds, entry 127 (.literal [] :: seeds), entry 128 seeds], _ :=
    fun d hd => @encodeDescriptor_iff_fits (List.replicate 8 1) [d]
      (List.forall_mem_singleton.2 (hkinds d hd))
  refine ⟨hkinds, ?_, ?_, ?_⟩
  · obtain ⟨hwritten, hsize, -⟩ := hlimits (entry 127 seeds) (by simp)
    have hfits : FitsRecord (List.replicate 8 1) [entry 127 seeds] := by
      refine ⟨rfl, by decide, List.forall_mem_singleton.2 ⟨⟨⟨127, rfl, by decide⟩, ?_⟩, ?_⟩⟩
      · simp [seeds, Draft.FitSeeds, Draft.FitsSeed, Value.IsOctet, Draft.packedSize]
      · simp [entry, Draft.flags, Flags.Fit, ByteField.toInt]
    obtain ⟨record, hrecord⟩ := hwritten.2 hfits
    obtain ⟨hlength, hdeclared, hcount⟩ := hsize record hrecord
    have hlength : record.length = 51 := Int.ofNat.inj hlength
    rw [hlength] at hdeclared
    exact ⟨record, hrecord, hlength, Nat.add_left_cancel (n := 12) hdeclared, hcount⟩
  · refine (hlimits (entry 127 (.literal [] :: seeds)) (by simp)).2.2 fun hfits => ?_
    obtain ⟨⟨-, -, hroom⟩, -⟩ := hfits.entries _ List.mem_cons_self
    simp [seeds, Draft.packedSize] at hroom
  · refine (hlimits (entry 128 seeds) (by simp)).2.2 fun hfits => ?_
    obtain ⟨⟨⟨n, hn, -, hlast⟩, -⟩, -⟩ := hfits.entries _ List.mem_cons_self
    cases hn
    exact absurd hlast (by decide)

end ExtraMetas

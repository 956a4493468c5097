import ExtraMetas.Proofs.Descriptor.Encoding
import ExtraMetas.Proofs.Descriptor.SeedPacking

/-!
# ExtraMetas.Proofs.Descriptor.RoundTrip

**Reading a descriptor undoes writing it** (`decode_encodeDescriptor`). The layers of the format are
taken from the inside out: an address config (`SeedPacking`), the 35 bytes of an entry
(`Entry.decode_pack`), entries back to back (`Entry.decodeMany_flatten`), and the record with its
header (`Descriptor.decode_record`). The record may be followed by anything, since an account is
often larger than what it holds.
-/

namespace ExtraMetas

open Layout

/-! ### Numbers in a header -/

/-- A little-endian number is read back from between any other bytes. -/
theorem Bytes.readU32_append {n : Nat} (hn : n < 0x100000000) (before rest : Bytes) :
    (before ++ Bytes.ofNatLE 4 n ++ rest).readU32 before.length = n := by
  have hsize : (before ++ Bytes.ofNatLE 4 n ++ rest).length = before.length + 4 + rest.length := by
    simp only [List.length_append, Bytes.length_ofNatLE]
  have hstop : (before.length : Int) + 4 = ((before.length + 4 : Nat) : Int) := by omega
  have htake : (before ++ Bytes.ofNatLE 4 n ++ rest).take (before.length + 4)
      = before ++ Bytes.ofNatLE 4 n := by
    refine List.take_left' ?_
    rw [List.length_append, Bytes.length_ofNatLE]
  rw [Bytes.readU32, hstop, Bytes.slice_eq_take_drop _ (by omega) (by omega), htake,
    List.drop_left, Bytes.toNatLE_ofNatLE]
  exact Nat.mod_eq_of_lt hn

/-! ### Entries -/

/-- The bytes of an address are a tag and a full config, and together they are read back. -/
theorem AddressConfig.exists_pack {a : AddressConfig} (h : a.Fits) :
    ∃ tag config, a.pack = tag :: config ∧ config.length = configSize ∧
      AddressConfig.decode tag config = .ok a := by
  cases a with
  | literal address =>
      refine ⟨literalTag, address.bytes, rfl, address.size_eq, ?_⟩
      rw [AddressConfig.decode, if_pos rfl, Pubkey.ofBytes?_bytes]
  | ownSeeds seeds =>
      refine ⟨ownSeedsTag, Seed.packAll seeds, rfl, length_padConfig h, ?_⟩
      rw [AddressConfig.decode, if_neg (by decide), if_pos rfl, Seed.decodeAll_packAll h]
      rfl
  | externalSeeds index seeds =>
      have hindex : index.val < 128 := index.isLt
      have htag : (UInt8.ofNat (externalSeedsFlag + index.val)).toNat
          = externalSeedsFlag + index.val := by
        simp only [UInt8.toNat_ofNat', externalSeedsFlag]
        omega
      refine ⟨UInt8.ofNat (externalSeedsFlag + index.val), Seed.packAll seeds, rfl,
        length_padConfig h, ?_⟩
      rw [AddressConfig.decode_externalSeeds htag, Seed.decodeAll_packAll h]
      rfl
  | keyData source =>
      refine ⟨keyDataTag, source.pack, rfl, source.length_pack, ?_⟩
      rw [AddressConfig.decode, if_neg (by decide), if_neg (by decide), if_pos rfl,
        KeySource.decode_pack]
      rfl

theorem AddressConfig.length_pack {a : AddressConfig} (h : a.Fits) :
    a.pack.length = 1 + configSize := by
  obtain ⟨tag, config, hpack, hsize, -⟩ := AddressConfig.exists_pack h
  rw [hpack, List.length_cons, hsize, Nat.add_comm]

/-- The bytes of an entry are read back, each flag as whether its byte is set. -/
theorem Entry.decode_pack {a : AddressConfig} (h : a.Fits) (signer writable : UInt8) :
    Entry.decode (a.pack ++ [signer, writable]) = .ok ⟨a, signer != 0, writable != 0⟩ := by
  obtain ⟨tag, config, hpack, hsize, hdecode⟩ := AddressConfig.exists_pack h
  have hflags : (tag :: (config ++ [signer, writable])).drop (1 + configSize)
      = [signer, writable] := by
    rw [← hsize, Nat.add_comm, List.drop_succ_cons, List.drop_left]
  have hconfig : ((tag :: (config ++ [signer, writable])).drop 1).take configSize = config := by
    rw [← hsize, List.drop_one, List.tail_cons, List.take_left]
  rw [Entry.decode, hpack, List.cons_append, List.head?_cons, hflags, hconfig]
  dsimp only
  rw [hdecode]

/-- Whatever draft could be encoded is read back as an entry, and that is the draft's if its fields
are plain. -/
theorem Draft.decode_packEntry {d : Draft} {raw : Bytes} (h : d.packEntry = .ok raw) :
    raw.length = entrySize ∧
      ∃ e, Entry.decode raw = .ok e ∧ (d.hasPlainFields = true → e.toDraft = d) := by
  obtain ⟨a, flags, signer, writable, ha, hsigner, hwritable, rfl⟩ := Draft.packEntry_eq_ok h
  have hfits := Draft.fits_of_toAddress ha
  refine ⟨?_, _, Entry.decode_pack hfits signer writable, ?_⟩
  · rw [List.length_append, AddressConfig.length_pack hfits]
    rfl
  · intro hplain
    rw [isSet_of_flagByte hsigner, isSet_of_flagByte hwritable]
    exact Draft.toDraft_of_toAddress hplain ha

/-- An entry whose address has room in one config is read back as itself. -/
theorem Entry.decode_packEntry_toDraft {e : Entry} (hfits : e.address.Fits) {raw : Bytes}
    (h : e.toDraft.packEntry = .ok raw) : raw.length = entrySize ∧ Entry.decode raw = .ok e := by
  refine ⟨(Draft.decode_packEntry h).1, ?_⟩
  rw [Entry.packEntry_toDraft hfits] at h
  cases h
  rw [Entry.decode_pack hfits]
  obtain ⟨address, signer, writable⟩ := e
  cases signer <;> cases writable <;> rfl

/-- The blocks that a pass over drafts wrote stand for entries, one each. -/
theorem Draft.exists_entries_of_packEntry {drafts : List Draft} {raws : List Bytes}
    (h : List.Forall₂ (fun d raw => Draft.packEntry d = .ok raw) drafts raws) :
    ∃ entries, List.Forall₂ (fun raw e => raw.length = entrySize ∧ Entry.decode raw = .ok e)
        raws entries ∧
      ((∀ d ∈ drafts, d.hasPlainFields = true) → entries.map Entry.toDraft = drafts) := by
  induction h with
  | nil => exact ⟨[], .nil, fun _ => rfl⟩
  | cons hd _ ih =>
      obtain ⟨hsize, e, hdecode, he⟩ := Draft.decode_packEntry hd
      obtain ⟨entries, hentries, hdrafts⟩ := ih
      refine ⟨e :: entries, .cons ⟨hsize, hdecode⟩ hentries, fun hplain => ?_⟩
      obtain ⟨hplainHead, hplainTail⟩ := List.forall_mem_cons.1 hplain
      rw [List.map_cons, he hplainHead, hdrafts hplainTail]

/-- Blocks of 35 bytes back to back have the size that their number asks for, and each is read back
from where it stands. -/
theorem Entry.decodeMany_flatten {raws : List Bytes} {entries : List Entry}
    (h : List.Forall₂ (fun raw e => raw.length = entrySize ∧ Entry.decode raw = .ok e)
      raws entries) :
    raws.flatten.length = entrySize * raws.length ∧
      Entry.decodeMany raws.length raws.flatten = .ok entries := by
  induction h with
  | nil => exact ⟨rfl, rfl⟩
  | cons hraw _ ih =>
      obtain ⟨hsize, hdecode⟩ := hraw
      obtain ⟨hlen, hrest⟩ := ih
      refine ⟨?_, ?_⟩
      · rw [List.flatten_cons, List.length_append, List.length_cons, hlen, hsize, Nat.mul_succ,
          Nat.add_comm]
      · rw [List.length_cons, List.flatten_cons, Entry.decodeMany, List.take_left' hsize,
          List.drop_left' hsize, hdecode, hrest]

theorem Draft.length_flatten_of_packEntry {drafts : List Draft} {raws : List Bytes}
    (h : List.Forall₂ (fun d raw => Draft.packEntry d = .ok raw) drafts raws) :
    raws.flatten.length = entrySize * drafts.length := by
  obtain ⟨entries, hentries, -⟩ := Draft.exists_entries_of_packEntry h
  rw [(Entry.decodeMany_flatten hentries).1, h.length_eq]

/-! ### Records -/

/-- The length field has room for the entries of a record, so entries that can be written each can
be written as one. -/
theorem encodeDescriptor_of_blocks {discriminator : Bytes} {drafts : List Draft} {raws : List Bytes}
    (hsize : discriminator.length = discriminatorSize) (hcount : drafts.length ≤ maxEntries)
    (hraws : List.Forall₂ (fun d raw => Draft.packEntry d = .ok raw) drafts raws) :
    encodeDescriptor discriminator drafts
      = .ok (discriminator ++ Bytes.ofNatLE 4 (countSize + raws.flatten.length)
          ++ (Bytes.ofNatLE 4 drafts.length ++ raws.flatten)) := by
  refine encodeDescriptor_of_packEntry hsize hcount hraws ?_
  rw [Draft.length_flatten_of_packEntry hraws]
  exact Nat.le_trans (Nat.mul_le_mul_left entrySize hcount) (by decide)

theorem exists_encodeDescriptor_iff {discriminator : Bytes} {drafts : List Draft} :
    (∃ record, encodeDescriptor discriminator drafts = .ok record) ↔
      discriminator.length = discriminatorSize ∧ drafts.length ≤ maxEntries ∧
        ∀ d ∈ drafts, ∃ raw, d.packEntry = .ok raw := by
  constructor
  · rintro ⟨record, hrecord⟩
    obtain ⟨hsize, hcount, raws, hraws, -⟩ := encodeDescriptor_eq_ok hrecord
    exact ⟨hsize, hcount, exists_forall₂_iff.1 ⟨raws, hraws⟩⟩
  · rintro ⟨hsize, hcount, hentries⟩
    obtain ⟨raws, hraws⟩ := exists_forall₂_iff.2 hentries
    exact ⟨_, encodeDescriptor_of_blocks hsize hcount hraws⟩

/-- A record whose header tells the truth is read, whatever follows it, under no filter and under
every filter that lets its discriminator pass. -/
theorem Descriptor.decode_record {discriminator body : Bytes} {count : Nat} {entries : List Entry}
    (hdiscriminator : discriminator.length = discriminatorSize) (hcount : count ≤ maxEntries)
    (hbody : body.length = entrySize * count) (hentries : Entry.decodeMany count body = .ok entries)
    (tail : Bytes) {accepted : Option (List Bytes)}
    (haccepted : ∀ known, accepted = some known → discriminator ∈ known) :
    Descriptor.decode (discriminator ++ Bytes.ofNatLE 4 (countSize + body.length)
        ++ (Bytes.ofNatLE 4 count ++ body) ++ tail) accepted
      = .ok ⟨discriminator, countSize + body.length, entries⟩ := by
  have hbodyLe : body.length ≤ 1120 := by
    rw [hbody]
    exact Nat.mul_le_mul_left entrySize hcount
  have hcountLe : count ≤ 32 := hcount
  -- the counted part and the whole account get names, so that each read is stated of a variable
  obtain ⟨value, hvalue⟩ : ∃ value, Bytes.ofNatLE 4 count ++ body = value := ⟨_, rfl⟩
  have hvalueSize : value.length = countSize + body.length := by
    rw [← hvalue, List.length_append, Bytes.length_ofNatLE, countSize]
  obtain ⟨data, hdata⟩ : ∃ data, discriminator ++ Bytes.ofNatLE 4 (countSize + body.length)
      ++ value ++ tail = data := ⟨_, rfl⟩
  have hsize : data.length = headerSize + (countSize + body.length) + tail.length := by
    simp only [← hdata, List.length_append, Bytes.length_ofNatLE, hdiscriminator, hvalueSize,
      headerSize, lengthSize]
  have hhead : data.take discriminatorSize = discriminator := by
    rw [← hdata, List.append_assoc, List.append_assoc, List.take_left' hdiscriminator]
  have hlength : data.readU32 discriminatorSize = countSize + body.length := by
    rw [← hdata, List.append_assoc, ← hdiscriminator, Bytes.readU32_append]
    rw [countSize]
    omega
  have hcut : (data.drop headerSize).take (countSize + body.length) = value := by
    have hheader : (discriminator ++ Bytes.ofNatLE 4 (countSize + body.length)).length
        = headerSize := by
      rw [List.length_append, Bytes.length_ofNatLE, hdiscriminator]
      rfl
    rw [← hdata, List.append_assoc, List.drop_left' hheader, List.take_left' hvalueSize]
  have hread : value.readU32 0 = count := by
    rw [← hvalue]
    exact Bytes.readU32_append (by omega) [] body
  have hrest : value.drop countSize = body := by
    rw [← hvalue]
    exact List.drop_left' (Bytes.length_ofNatLE countSize count)
  have hfilter : accepted.any (fun known => !known.contains discriminator) = false := by
    cases accepted with
    | none => rfl
    | some known =>
        have hmem := haccepted known rfl
        simp [hmem]
  rw [hvalue, hdata, Descriptor.decode, hhead, hlength, hcut, hread, hrest, hsize, hfilter,
    if_neg (by omega), if_neg Bool.false_ne_true, if_neg (by omega), if_neg (by omega),
    if_neg (by omega), if_neg (by omega), hentries]
  rfl

/-- **Reading undoes writing.** A descriptor that could be written is read back from the front of
any account, under no filter and under every filter that lets its discriminator pass: with the
discriminator it was written for, the length of its counted part, and exactly the drafts it was
written from, in order. -/
theorem decode_encodeDescriptor {discriminator record : Bytes} {drafts : List Draft}
    (hplain : ∀ d ∈ drafts, d.hasPlainFields = true)
    (h : encodeDescriptor discriminator drafts = .ok record)
    (tail : Bytes) {accepted : Option (List Bytes)}
    (haccepted : ∀ known, accepted = some known → discriminator ∈ known) :
    ∃ content, Descriptor.decode (record ++ tail) accepted = .ok content ∧
      content.discriminator = discriminator ∧ content.length = 4 + 35 * drafts.length ∧
      content.entries.map Entry.toDraft = drafts := by
  obtain ⟨hdiscriminator, hcount, raws, hraws, rfl⟩ := encodeDescriptor_eq_ok h
  obtain ⟨entries, hentries, hdrafts⟩ := Draft.exists_entries_of_packEntry hraws
  obtain ⟨hbody, hmany⟩ := Entry.decodeMany_flatten hentries
  rw [← hraws.length_eq] at hbody hmany
  refine ⟨_, Descriptor.decode_record hdiscriminator hcount hbody hmany tail haccepted, rfl, ?_,
    hdrafts hplain⟩
  rw [hbody]
  rfl

/-- A config without a terminator whose payload looks like seed tags, an empty literal in front of
a full index range, the highest program index, and an account that is larger than its record. -/
theorem decode_encodeDescriptor_full_configs :
    let drafts : List Draft :=
      [.ownSeeds [.literal (List.replicate 30 4)] ⟨.bool true, .bool false⟩,
        .externalSeeds (.int 127) [.literal [], .accountData (.int 255) (.int 0) (.int 255)]
          ⟨.bool true, .bool true⟩,
        .keyData (.accountDataKey (.int 1) (.int 32)) .none,
        .literalAddress .zero .none]
    (∀ d ∈ drafts, d.hasPlainFields = true) ∧
      ∃ record, encodeDescriptor (List.replicate 8 1) drafts = .ok record ∧
        ∃ content, Descriptor.decode (record ++ [1, 2, 3]) (some [[], List.replicate 8 1])
            = .ok content ∧
          content.discriminator = List.replicate 8 1 ∧ content.length = 144 ∧
          content.entries.map Entry.toDraft = drafts := by
  intro drafts
  have hplain : ∀ d ∈ drafts, d.hasPlainFields = true := by decide
  have hknown : ∀ known, some [[], List.replicate 8 1] = some known →
      List.replicate 8 (1 : UInt8) ∈ known := by
    rintro known ⟨⟩
    decide
  have hwritten : (encodeDescriptor (List.replicate 8 1) drafts).isOk = true := by
    decide +kernel
  cases hrecord : encodeDescriptor (List.replicate 8 1) drafts with
  | error e =>
      rw [hrecord] at hwritten
      cases hwritten
  | ok record =>
      exact ⟨hplain, record, rfl, decode_encodeDescriptor hplain hrecord [1, 2, 3] hknown⟩

end ExtraMetas

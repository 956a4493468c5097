import ExtraMetas.Proofs.Descriptor.Acceptance
import ExtraMetas.Proofs.Descriptor.RoundTrip

/-!
# ExtraMetas.Proofs.Descriptor.NormalForm

**Writing what was read gives a normal form.** Reading forgets three things of a record: which
non-zero byte a flag is, what stands behind the zero tag that ends a seed config, and what stands
behind a key source. `Descriptor.byteUse` says this of each byte, from the bytes alone; writing the
record again puts a 1 for a set flag, zeros for the unused bytes, and keeps all others
(`encodeDescriptor_of_decode`).

The layers are those of the format: a config, an entry, entries back to back, the record.
-/

namespace ExtraMetas

open Layout

/-! ### The use of a byte -/

/-- What a record has a byte for. -/
inductive ByteUse
  /-- Its value matters. -/
  | kept
  /-- Only whether it is zero matters. -/
  | flag
  /-- Nothing. -/
  | unused
deriving DecidableEq

/-- What is written for a byte. -/
def ByteUse.normalize : ByteUse → UInt8 → UInt8
  | kept, x => x
  | flag, x => if x = 0 then 0 else 1
  | unused, _ => 0

/-- How many bytes belong to the seed with the given tag, in front of `rest`, beside the tag. -/
def Seed.payloadSize (tag : UInt8) (rest : Bytes) : Nat :=
  if tag = literalSeed then 1 + (rest.headD 0).toNat
  else if tag = instructionDataSeed then 2
  else if tag = accountKeySeed then 1
  else 3

/-- The offset of the first zero seed tag, or the size of the config if there is none. The first
`skip` bytes belong to a seed whose tag was seen before. -/
def Seed.endOffset : (skip : Nat) → Bytes → Nat
  | _, [] => 0
  | skip + 1, _ :: rest => 1 + Seed.endOffset skip rest
  | 0, tag :: rest => if tag = seedEnd then 0 else 1 + Seed.endOffset (Seed.payloadSize tag rest) rest

/-- How many bytes of a config are used under a tag: all of an address, the seeds and the zero tag
that ends them, or the fields of a key source. -/
def AddressConfig.usedSize (tag : UInt8) (config : Bytes) : Nat :=
  if tag = literalTag then 32
  else if tag = keyDataTag then if config[0]? = some instructionDataSource then 2 else 3
  else Seed.endOffset 0 config + 1

/-- The use of the byte at offset `j` of an entry. -/
def Entry.byteUse (raw : Bytes) (j : Nat) : ByteUse :=
  if 33 ≤ j then .flag
  else if j < 1 + AddressConfig.usedSize (raw.headD 0) ((raw.drop 1).take 32) then .kept
  else .unused

/-- The use of the byte at offset `p` of a record. -/
def Descriptor.byteUse (data : Bytes) (p : Nat) : ByteUse :=
  if p < 16 then .kept else Entry.byteUse (data.entryAt ((p - 16) / 35)) ((p - 16) % 35)

/-! ### Configs -/

theorem Seed.endOffset_append (before rest : Bytes) :
    Seed.endOffset before.length (before ++ rest) = before.length + Seed.endOffset 0 rest := by
  induction before with
  | nil => simp
  | cons x before ih =>
      rw [List.length_cons, List.cons_append, Seed.endOffset, ih]
      omega

/-- Behind a tag and its payload, the search for the end goes on. -/
theorem Seed.endOffset_cons {tag : UInt8} (htag : tag ≠ seedEnd) {payload rest : Bytes}
    (hsize : Seed.payloadSize tag (payload ++ rest) = payload.length) :
    Seed.endOffset 0 (tag :: (payload ++ rest))
      = (tag :: payload).length + Seed.endOffset 0 rest := by
  rw [Seed.endOffset, if_neg htag, hsize, Seed.endOffset_append, List.length_cons]
  omega

theorem Seed.endOffset_pack {seed : Seed} (h : seed.pack.length ≤ configSize) (rest : Bytes) :
    Seed.endOffset 0 (seed.pack ++ rest) = seed.pack.length + Seed.endOffset 0 rest := by
  cases seed with
  | literal value =>
      have hlen : (UInt8.ofNat value.length).toNat = value.length := by
        simp only [Seed.pack, List.length_cons, configSize] at h
        simp only [UInt8.toNat_ofNat']
        omega
      refine Seed.endOffset_cons (by decide) ?_
      simp only [Seed.payloadSize, if_true, List.cons_append, List.headD_cons, hlen,
        List.length_cons]
      omega
  | instructionData index length => exact Seed.endOffset_cons (by decide) rfl
  | accountKey index => exact Seed.endOffset_cons (by decide) rfl
  | accountData account index length => exact Seed.endOffset_cons (by decide) rfl

theorem Seed.endOffset_flatMap_pack {seeds : List Seed}
    (h : (seeds.flatMap Seed.pack).length ≤ configSize) {rest : Bytes}
    (hrest : Seed.EndsAt rest) :
    Seed.endOffset 0 (seeds.flatMap Seed.pack ++ rest) = (seeds.flatMap Seed.pack).length := by
  induction seeds with
  | nil =>
      rcases hrest with rfl | ⟨tail, rfl⟩
      · rfl
      · rfl
  | cons seed seeds ih =>
      rw [List.flatMap_cons, List.length_append] at h
      rw [List.flatMap_cons, List.append_assoc, Seed.endOffset_pack (by omega), ih (by omega),
        List.length_append]

/-- Cutting a config and filling it up again keeps its first bytes and clears the others. -/
theorem padConfig_take {config : Bytes} (h : config.length = configSize) (n : Nat) :
    padConfig (config.take n) = config.mapIdx fun q x => if q < n then x else 0 := by
  have hsize : (padConfig (config.take n)).length = configSize :=
    length_padConfig (by rw [List.length_take, h]; omega)
  apply List.ext_getElem
  · rw [hsize, List.length_mapIdx, h]
  · intro q hq hq'
    rw [List.getElem_mapIdx]
    simp only [padConfig]
    rw [List.getElem_append]
    simp only [List.length_take, List.getElem_take, List.getElem_replicate]
    rw [List.length_mapIdx] at hq'
    by_cases hlt : q < n
    · rw [if_pos hlt, dif_pos (by omega)]
    · rw [if_neg hlt, dif_neg (by omega)]

theorem padConfig_append_zero {b : Bytes} (h : b.length < configSize) :
    padConfig (b ++ [0]) = padConfig b := by
  have hroom : configSize - b.length = configSize - (b.length + 1) + 1 := by omega
  rw [padConfig, padConfig, List.length_append, List.length_singleton, hroom,
    List.replicate_succ, List.append_assoc, List.singleton_append]

theorem padConfig_of_length_eq {b : Bytes} (h : b.length = configSize) : padConfig b = b := by
  rw [padConfig, h, Nat.sub_self, List.replicate_zero, List.append_nil]

/-- The seeds of a config are written as its bytes up to the zero tag that ends them. -/
theorem Seed.packAll_of_decodeAll {config : Bytes} {seeds : List Seed}
    (h : Seed.decodeAll config = .ok seeds) :
    (seeds.flatMap Seed.pack).length ≤ configSize ∧
      Seed.packAll seeds = padConfig (config.take (Seed.endOffset 0 config + 1)) := by
  rw [Seed.decodeAll] at h
  split at h
  · rename_i hsize
    obtain ⟨rest, rfl, hrest⟩ := Seed.exists_rest_of_decodeFrom h
    have hfits : (seeds.flatMap Seed.pack).length ≤ configSize := by
      rw [← hsize, List.length_append]
      omega
    refine ⟨hfits, ?_⟩
    rw [Seed.endOffset_flatMap_pack hfits hrest, Seed.packAll]
    rcases hrest with rfl | ⟨tail, rfl⟩
    · -- the config is full, so no tag ends it
      rw [List.append_nil, List.take_of_length_le (Nat.le_succ _)]
    · rw [List.length_append, List.length_cons] at hsize
      rw [List.take_length_add_append, List.take_succ_cons, List.take_zero,
        padConfig_append_zero (by omega)]
  · cases h

/-- An address that was read is written with the bytes that its tag uses, and zeros behind them. -/
theorem AddressConfig.pack_of_means {tag : UInt8} {config : Bytes} {a : AddressConfig}
    (hsize : config.length = configSize) (h : AddressConfig.Means tag config a) :
    a.Fits ∧ a.pack = tag :: padConfig (config.take (AddressConfig.usedSize tag config)) := by
  cases h with
  | literal address =>
      refine ⟨trivial, ?_⟩
      have hused : AddressConfig.usedSize 0 address.bytes = configSize := rfl
      rw [hused, ← hsize, List.take_length, padConfig_of_length_eq hsize]
      rfl
  | ownSeeds hseeds =>
      obtain ⟨hfits, hpack⟩ := Seed.packAll_of_decodeAll hseeds
      refine ⟨hfits, ?_⟩
      rw [AddressConfig.usedSize, if_neg (by decide), if_neg (by decide), ← hpack]
      rfl
  | instructionDataKey index rest => exact ⟨trivial, rfl⟩
  | accountDataKey account index rest => exact ⟨trivial, rfl⟩
  | @externalSeeds _ _ index seeds htag hseeds =>
      obtain ⟨hfits, hpack⟩ := Seed.packAll_of_decodeAll hseeds
      have hflag : externalSeedsFlag ≤ tag.toNat := Nat.le.intro htag.symm
      have hofNat : UInt8.ofNat (externalSeedsFlag + index.val) = tag := by
        rw [← UInt8.ofNat_toNat (x := tag), htag]
        rfl
      refine ⟨hfits, ?_⟩
      rw [AddressConfig.usedSize, if_neg (ne_of_externalSeedsFlag_le hflag (by decide)),
        if_neg (ne_of_externalSeedsFlag_le hflag (by decide)), ← hpack, AddressConfig.pack, hofNat]

/-! ### Entries -/

/-- The uses of an entry's bytes, by its tag and its config. -/
theorem Entry.byteUse_parts {config : Bytes} (hsize : config.length = 32)
    (tag signer writable : UInt8) (j : Nat) :
    Entry.byteUse (tag :: (config ++ [signer, writable])) j
      = if 33 ≤ j then .flag
        else if j < 1 + AddressConfig.usedSize tag config then .kept else .unused := by
  rw [Entry.byteUse, List.headD_cons, (Entry.drop_parts hsize tag signer writable).1]

/-- An entry that was read can be written, and its bytes are normalized one by one. -/
theorem Entry.packEntry_of_means {raw : Bytes} {e : Entry} (h : Entry.Means raw e) :
    e.address.Fits ∧ e.toDraft.packEntry
      = .ok (raw.mapIdx fun j x => (Entry.byteUse raw j).normalize x) := by
  cases h with
  | @mk tag signer writable config a hsize haddress =>
      obtain ⟨hfits, hpack⟩ := AddressConfig.pack_of_means hsize haddress
      refine ⟨hfits, ?_⟩
      rw [Entry.packEntry_toDraft hfits]
      dsimp only
      rw [hpack, padConfig_take hsize]
      simp only [Entry.byteUse_parts hsize, List.mapIdx_cons, List.mapIdx_append, hsize,
        List.mapIdx_nil, List.cons_append]
      have hconfig : (config.mapIdx fun q x => if q < AddressConfig.usedSize tag config then x else 0)
          = config.mapIdx fun q x => (if 33 ≤ q + 1 then ByteUse.flag
              else if q + 1 < 1 + AddressConfig.usedSize tag config then .kept
              else .unused).normalize x := by
        rw [List.mapIdx_eq_mapIdx_iff]
        intro q hq
        rw [if_neg (by omega : ¬ 33 ≤ q + 1)]
        by_cases hused : q < AddressConfig.usedSize tag config
        · rw [if_pos hused, if_pos (by omega), ByteUse.normalize]
        · rw [if_neg hused, if_neg (by omega), ByteUse.normalize]
      have htag : (if 33 ≤ 0 then ByteUse.flag
          else if 0 < 1 + AddressConfig.usedSize tag config then .kept else .unused) = .kept := by
        rw [if_neg (by omega), if_pos (by omega)]
      rw [hconfig, htag]
      simp [ByteUse.normalize]

/-- Entries back to back, of which each was read, are written as blocks. The blocks are read as the
same entries, and together they are the normalized bytes. -/
theorem Entry.exists_blocks {count : Nat} {b : Bytes} {entries : List Entry}
    (h : List.Forall₂ (fun i e => Entry.Means ((b.drop (35 * i)).take 35) e) (List.range count)
      entries) :
    ∃ raws, List.Forall₂ (fun d raw => Draft.packEntry d = .ok raw) (entries.map Entry.toDraft)
        raws ∧
      List.Forall₂ (fun raw e => raw.length = entrySize ∧ Entry.decode raw = .ok e) raws entries ∧
      raws.flatten = (b.take (35 * count)).mapIdx fun q x =>
        (Entry.byteUse ((b.drop (35 * (q / 35))).take 35) (q % 35)).normalize x := by
  induction count generalizing b entries with
  | zero =>
      cases h
      exact ⟨[], .nil, .nil, rfl⟩
  | succ count ih =>
      obtain ⟨e, rest, he, hrest, rfl⟩ := Entry.forall₂_means_succ_iff.1 h
      obtain ⟨raws, hraws, hdecoded, hflatten⟩ := ih hrest
      obtain ⟨hfits, hpacked⟩ := Entry.packEntry_of_means he
      obtain ⟨hsize, hdecode⟩ := Entry.decode_packEntry_toDraft hfits hpacked
      have hlen : (b.take 35).length = 35 := by
        rw [List.length_mapIdx] at hsize
        exact hsize
      refine ⟨_ :: raws, .cons hpacked hraws, .cons ⟨hsize, hdecode⟩ hdecoded, ?_⟩
      rw [List.flatten_cons, hflatten, Nat.mul_succ, Nat.add_comm, List.take_add,
        List.mapIdx_append, hlen]
      congr 1
      · rw [List.mapIdx_eq_mapIdx_iff]
        intro q hq
        rw [hlen] at hq
        rw [Nat.div_eq_of_lt hq, Nat.mod_eq_of_lt hq]
        rfl
      · refine congrArg (List.mapIdx · _) ?_
        funext q x
        rw [Nat.add_div_right q (by decide), Nat.add_mod_right, List.drop_drop, Nat.mul_succ,
          Nat.add_comm 35]

/-! ### Records -/

/-- A record that was read, with each byte normalized: its header, and its entries. -/
theorem Descriptor.mapIdx_normalize {data : Bytes} {count : Nat}
    (hfits : 16 + 35 * count ≤ data.length) :
    (data.take (16 + 35 * count)).mapIdx (fun p x => (Descriptor.byteUse data p).normalize x)
      = data.take 16 ++ ((data.drop 16).take (35 * count)).mapIdx fun q x =>
          (Entry.byteUse (((data.drop 16).drop (35 * (q / 35))).take 35) (q % 35)).normalize x := by
  have hlen : (data.take 16).length = 16 := by
    rw [List.length_take]
    omega
  rw [List.take_add, List.mapIdx_append, hlen]
  congr 1
  · rw [List.mapIdx_eq_iff]
    intro p
    by_cases hp : p < 16
    · simp [Descriptor.byteUse, hp, ByteUse.normalize]
    · rw [List.getElem?_eq_none (by omega), Option.map_none]
  · refine congrArg (List.mapIdx · _) ?_
    funext q x
    have hbody : ¬ q + 16 < 16 := by omega
    rw [Descriptor.byteUse, if_neg hbody, Nat.add_sub_cancel, Bytes.entryAt, List.drop_drop]

/-- The first bytes of a record are its discriminator, its length and its count. -/
theorem Bytes.take_header {data : Bytes} (h : 16 ≤ data.length) :
    data.take 16 = data.take 8 ++ Bytes.ofNatLE 4 data.declaredLength
      ++ Bytes.ofNatLE 4 data.declaredCount := by
  have hword : ∀ i, i + 4 ≤ data.length →
      Bytes.ofNatLE 4 (Bytes.toNatLE ((data.drop i).take 4)) = (data.drop i).take 4 := by
    intro i hi
    have hlen : ((data.drop i).take 4).length = 4 := by
      rw [List.length_take, List.length_drop]
      omega
    have hback := Bytes.ofNatLE_toNatLE ((data.drop i).take 4)
    rw [hlen] at hback
    exact hback
  rw [Bytes.declaredLength, Bytes.declaredCount, hword 8 (by omega), hword 12 (by omega),
    ← List.take_add, ← List.take_add]

/-- A byte is written as it stands iff a flag is 0 or 1 and an unused byte is zero. -/
theorem ByteUse.normalize_eq_self_iff {use : ByteUse} {x : UInt8} :
    use.normalize x = x ↔ (use = .flag → x = 0 ∨ x = 1) ∧ (use = .unused → x = 0) := by
  cases use with
  | kept => simp [ByteUse.normalize]
  | flag =>
      by_cases hx : x = 0
      · simp [ByteUse.normalize, hx]
      · simp [ByteUse.normalize, hx, eq_comm]
  | unused => simp [ByteUse.normalize, eq_comm]

/-- A record is its own normal form iff every flag byte is 0 or 1 and every unused byte zero. -/
theorem Descriptor.normalize_take_eq_iff {data : Bytes} {n : Nat} :
    ((data.take n).mapIdx fun p x => (Descriptor.byteUse data p).normalize x) = data.take n ↔
      ∀ p x, p < n → data[p]? = some x →
        (Descriptor.byteUse data p = .flag → x = 0 ∨ x = 1) ∧
          (Descriptor.byteUse data p = .unused → x = 0) := by
  rw [List.mapIdx_eq_iff]
  constructor
  · intro hsame p x hp hx
    have hget : (data.take n)[p]? = some x := by rw [List.getElem?_take_of_lt hp, hx]
    have hkept := hsame p
    rw [hget, Option.map_some, Option.some.injEq] at hkept
    exact ByteUse.normalize_eq_self_iff.1 hkept.symm
  · intro hcanonical p
    by_cases hp : p < n
    · rw [List.getElem?_take_of_lt hp]
      cases hx : data[p]? with
      | none => rfl
      | some x => rw [Option.map_some, ByteUse.normalize_eq_self_iff.2 (hcanonical p x hp hx)]
    · rw [List.getElem?_eq_none (by rw [List.length_take]; omega), Option.map_none]

theorem Descriptor.Says.count_eq {data : Bytes} {content : Descriptor}
    (h : Descriptor.Says data content) : content.entries.length = data.declaredCount := by
  rw [← h.entries.length_eq, List.length_range]

/-- The entries that were read can be written, as blocks that are read as the same entries. With the
header that was read in front of them, they are the normal form of the record. -/
theorem Descriptor.Header.exists_raws {data : Bytes} {accepted : Option (List Bytes)}
    {content : Descriptor} (h : Descriptor.Header data accepted)
    (hread : Descriptor.Says data content) :
    ∃ raws, List.Forall₂ (fun d raw => Draft.packEntry d = .ok raw)
        (content.entries.map Entry.toDraft) raws ∧
      raws.flatten.length = entrySize * content.entries.length ∧
      Entry.decodeMany content.entries.length raws.flatten = .ok content.entries ∧
      content.discriminator ++ Bytes.ofNatLE 4 content.length
          ++ (Bytes.ofNatLE 4 content.entries.length ++ raws.flatten)
        = (data.take (12 + content.length)).mapIdx
            fun p x => (Descriptor.byteUse data p).normalize x := by
  have hsize : 12 + content.length = 16 + 35 * data.declaredCount := by
    rw [hread.length, h.length_eq]
    omega
  have hfits : 16 + 35 * data.declaredCount ≤ data.length := by
    rw [← hsize, hread.length]
    exact h.fits
  have hentries : List.Forall₂
      (fun i e => Entry.Means (((data.drop 16).drop (35 * i)).take 35) e)
      (List.range data.declaredCount) content.entries := by
    simpa only [List.drop_drop, Bytes.entryAt] using hread.entries
  obtain ⟨raws, hraws, hdecoded, hflatten⟩ := Entry.exists_blocks hentries
  obtain ⟨hbody, hmany⟩ := Entry.decodeMany_flatten hdecoded
  rw [hdecoded.length_eq] at hbody hmany
  refine ⟨raws, hraws, hbody, hmany, ?_⟩
  -- the header that is written is the one that was read
  rw [hsize, Descriptor.mapIdx_normalize hfits, ← hflatten, Bytes.take_header h.size,
    hread.length, hread.discriminator, hread.count_eq]
  simp only [List.append_assoc]

/-- **Writing what was read gives a normal form.** A descriptor that was read can be written. The
record has the size that was declared, is read as the same descriptor under every filter that lets
its discriminator pass, and is the record that was read with each byte normalized. So it is that
record again iff every flag byte there is 0 or 1 and every unused byte zero. -/
theorem encodeDescriptor_of_decode {data : Bytes} {accepted : Option (List Bytes)}
    {content : Descriptor} (h : Descriptor.decode data accepted = .ok content) :
    ∃ record, encodeDescriptor content.discriminator (content.entries.map Entry.toDraft)
        = .ok record ∧
      record.length = 12 + content.length ∧
      (∀ others : Option (List Bytes), (∀ known, others = some known →
          content.discriminator ∈ known) → Descriptor.decode record others = .ok content) ∧
      record = (data.take (12 + content.length)).mapIdx
        (fun p x => (Descriptor.byteUse data p).normalize x) ∧
      (record = data.take (12 + content.length) ↔
        ∀ p x, p < 12 + content.length → data[p]? = some x →
          (Descriptor.byteUse data p = .flag → x = 0 ∨ x = 1) ∧
            (Descriptor.byteUse data p = .unused → x = 0)) := by
  obtain ⟨hheader, hread⟩ := Descriptor.decode_eq_ok_iff.1 h
  obtain ⟨raws, hraws, hbody, hmany, hrecord⟩ := hheader.exists_raws hread
  have hlimit : content.entries.length ≤ maxEntries := by
    rw [hread.count_eq]
    exact hheader.limit
  have hlength : content.length = countSize + raws.flatten.length := by
    rw [hread.length, hheader.length_eq, hbody, hread.count_eq]
    rfl
  have hdiscriminator : content.discriminator.length = discriminatorSize := by
    rw [hread.discriminator, List.length_take, Nat.min_eq_left (by have := hheader.size; omega)]
    rfl
  have hencoded := encodeDescriptor_of_packEntry hdiscriminator (by rwa [List.length_map]) hraws (by
    rw [hbody]
    exact Nat.le_trans (Nat.mul_le_mul_left entrySize hlimit) (by decide))
  rw [List.length_map, ← hlength, hrecord] at hencoded
  refine ⟨_, hencoded, ?_, ?_, rfl, Descriptor.normalize_take_eq_iff⟩
  · have hfits := hheader.fits
    rw [← hread.length] at hfits
    rw [List.length_mapIdx, List.length_take, Nat.min_eq_left hfits]
  · intro others hothers
    have hdecode := Descriptor.decode_record hdiscriminator hlimit hbody hmany [] hothers
    rw [List.append_nil, ← hlength, hrecord] at hdecode
    exact hdecode

/-- A literal seed and a zero tag with bytes behind it, a flag byte of 5, a key source with bytes
behind it, and bytes behind the record. The seed's own bytes look like tags and are kept. -/
theorem encodeDescriptor_of_decode_unused_bytes :
    let header : Bytes := List.replicate 8 6 ++ [74, 0, 0, 0, 2, 0, 0, 0]
    let data : Bytes := header ++ ([1, 1, 2, 0, 4, 0] ++ List.replicate 28 9 ++ [5])
      ++ ([2, 1, 7] ++ List.replicate 30 9 ++ [0, 1]) ++ [9, 9, 9]
    let content : Descriptor := ⟨List.replicate 8 6, 74,
      [⟨.ownSeeds [.literal [0, 4]], true, true⟩, ⟨.keyData (.instructionData 7), false, true⟩]⟩
    let record : Bytes := header ++ ([1, 1, 2, 0, 4] ++ List.replicate 28 0 ++ [1, 1])
      ++ ([2, 1, 7] ++ List.replicate 30 0 ++ [0, 1])
    Descriptor.decode data none = .ok content ∧
      encodeDescriptor content.discriminator (content.entries.map Entry.toDraft) = .ok record ∧
      Descriptor.decode record none = .ok content ∧ record ≠ data.take 86 := by
  intro header data content record
  have hdecode : Descriptor.decode data none = .ok content := by decide +kernel
  obtain ⟨written, hwritten, -, hagain, hnormal, -⟩ := encodeDescriptor_of_decode hdecode
  have hrecord : written = record := by
    rw [hnormal]
    decide +kernel
  rw [hrecord] at hwritten hagain
  refine ⟨hdecode, hwritten, hagain none ?_, by decide +kernel⟩
  rintro known ⟨⟩

end ExtraMetas

import ExtraMetas.Proofs.Resolution.ErrorKinds

/-!
# ExtraMetas.Proofs.Descriptor.Acceptance

**Which accounts hold a descriptor.** The layout is written down here once more, as a property of
the account's bytes (`Descriptor.LaidOut`) and as what these bytes say (`Descriptor.Says`), without
any order of checks. The decoder reads exactly the accounts with that property, as what they say,
and refuses every other one for a violation (`Descriptor.decode_eq_ok_iff_laidOut`).

Each layer of the decoder has its `iff` lemma: an address (`AddressConfig.decode_eq_ok_iff`), an
entry, entries back to back, and the header in front of them.
-/

namespace ExtraMetas

open Layout

/-! ### Fields of a record -/

namespace Bytes

/-- The number in the length field of a record. -/
def declaredLength (data : Bytes) : Nat :=
  toNatLE ((data.drop 8).take 4)

/-- The number in the count field of a record. -/
def declaredCount (data : Bytes) : Nat :=
  toNatLE ((data.drop 12).take 4)

/-- The 35 bytes of the entry at position `i` of a record. -/
def entryAt (data : Bytes) (i : Nat) : Bytes :=
  (data.drop (16 + 35 * i)).take 35

theorem readU32_eq {b : Bytes} {i : Nat} (h : i + 4 ≤ b.length) :
    b.readU32 i = toNatLE ((b.drop i).take 4) := by
  have hstop : (i : Int) + 4 = ((i + 4 : Nat) : Int) := by omega
  rw [readU32, hstop, slice_eq_take_drop b (by omega) h, List.drop_take, Nat.add_sub_cancel_left]

/-- The counted part of a record begins with the count, if it has room for one. -/
theorem readU32_value {data : Bytes} (hcount : 4 ≤ data.declaredLength)
    (hfits : 12 + data.declaredLength ≤ data.length) :
    readU32 ((data.drop 12).take data.declaredLength) 0 = data.declaredCount := by
  have hsize : 0 + 4 ≤ ((data.drop 12).take data.declaredLength).length := by
    rw [List.length_take, List.length_drop]
    omega
  have hread := readU32_eq hsize
  rw [List.drop_zero, List.take_take, Nat.min_eq_left hcount] at hread
  exact hread

end Bytes

/-! ### Addresses -/

/-- What a tag and an address config say. -/
inductive AddressConfig.Means : UInt8 → Bytes → AddressConfig → Prop
  | literal (address : Pubkey) : Means 0 address.bytes (.literal address)
  | ownSeeds {config : Bytes} {seeds : List Seed} (hseeds : Seed.decodeAll config = .ok seeds) :
      Means 1 config (.ownSeeds seeds)
  | instructionDataKey (index : UInt8) (rest : Bytes) :
      Means 2 (1 :: index :: rest) (.keyData (.instructionData index))
  | accountDataKey (account index : UInt8) (rest : Bytes) :
      Means 2 (2 :: account :: index :: rest) (.keyData (.accountData account index))
  | externalSeeds {tag : UInt8} {config : Bytes} {index : Fin externalSeedsFlag}
      {seeds : List Seed} (htag : tag.toNat = 128 + index.val)
      (hseeds : Seed.decodeAll config = .ok seeds) :
      Means tag config (.externalSeeds index seeds)

/-- The tags that mean something, each with the configs that it may stand in front of. -/
def AddressConfig.WellFormed (tag : UInt8) (config : Bytes) : Prop :=
  tag = 0 ∨ ((tag = 1 ∨ 128 ≤ tag.toNat) ∧ ∃ seeds, Seed.decodeAll config = .ok seeds) ∨
    (tag = 2 ∧ (config[0]? = some 1 ∨ config[0]? = some 2))

theorem KeySource.decode_eq_ok_iff {config : Bytes} {source : KeySource} :
    KeySource.decode config = .ok source ↔ AddressConfig.Means 2 config (.keyData source) := by
  constructor
  · intro h
    unfold KeySource.decode at h
    split at h
    · cases h
    split at h
    · rename_i tag rest htag
      subst htag
      cases rest with
      | nil => cases h
      | cons index rest =>
          cases h
          exact .instructionDataKey index rest
    split at h
    · rename_i tag rest _ htag
      subst htag
      match rest with
      | [] | [_] => cases h
      | account :: index :: rest =>
          cases h
          exact .accountDataKey account index rest
    · cases h
  · intro h
    cases h with
    | instructionDataKey index rest => rfl
    | accountDataKey account index rest => rfl

theorem AddressConfig.decode_eq_ok_iff {tag : UInt8} {config : Bytes} {a : AddressConfig} :
    AddressConfig.decode tag config = .ok a ↔ AddressConfig.Means tag config a := by
  constructor
  · intro h
    rw [AddressConfig.decode] at h
    split at h
    · rename_i htag
      split at h
      · rename_i address haddress
        cases h
        rw [htag, ← Pubkey.ofBytes?_eq_some_iff.1 haddress]
        exact .literal address
      · cases h
    split at h
    · rename_i htag
      obtain ⟨seeds, hseeds, rfl⟩ := Except.map_eq_ok_iff.1 h
      rw [htag]
      exact .ownSeeds hseeds
    split at h
    · rename_i htag
      obtain ⟨source, hsource, rfl⟩ := Except.map_eq_ok_iff.1 h
      rw [htag]
      exact KeySource.decode_eq_ok_iff.1 hsource
    split at h
    · rename_i hflag
      obtain ⟨seeds, hseeds, rfl⟩ := Except.map_eq_ok_iff.1 h
      refine .externalSeeds ?_ hseeds
      simp only [externalSeedsFlag] at hflag ⊢
      omega
    · cases h
  · intro h
    cases h with
    | literal address => simp [AddressConfig.decode, literalTag]
    | ownSeeds hseeds => simp [AddressConfig.decode, literalTag, ownSeedsTag, hseeds, Except.map]
    | instructionDataKey index rest => rfl
    | accountDataKey account index rest => rfl
    | externalSeeds htag hseeds =>
        rw [AddressConfig.decode_externalSeeds htag, hseeds]
        rfl

/-- A whole config says something iff its tag takes configs like it. -/
theorem AddressConfig.exists_means_iff {tag : UInt8} {config : Bytes}
    (hsize : config.length = 32) :
    (∃ a, AddressConfig.Means tag config a) ↔ AddressConfig.WellFormed tag config := by
  constructor
  · rintro ⟨a, ha⟩
    cases ha with
    | literal address => exact Or.inl rfl
    | ownSeeds hseeds => exact Or.inr (Or.inl ⟨Or.inl rfl, _, hseeds⟩)
    | instructionDataKey index rest => exact Or.inr (Or.inr ⟨rfl, Or.inl rfl⟩)
    | accountDataKey account index rest => exact Or.inr (Or.inr ⟨rfl, Or.inr rfl⟩)
    | externalSeeds htag hseeds =>
        exact Or.inr (Or.inl ⟨Or.inr (by omega), _, hseeds⟩)
  · rintro (rfl | ⟨rfl | hflag, seeds, hseeds⟩ | ⟨rfl, hsource⟩)
    · exact ⟨_, .literal ⟨config, hsize⟩⟩
    · exact ⟨_, .ownSeeds hseeds⟩
    · have hlt := tag.toNat_lt
      have hindex : tag.toNat - 128 < externalSeedsFlag := by
        simp only [externalSeedsFlag]
        omega
      refine ⟨.externalSeeds ⟨tag.toNat - 128, hindex⟩ seeds, .externalSeeds ?_ hseeds⟩
      dsimp only
      omega
    · match config, hsize with
      | source :: account :: index :: rest, _ =>
          rcases hsource with hsource | hsource
          · cases hsource
            exact ⟨_, .instructionDataKey account (index :: rest)⟩
          · cases hsource
            exact ⟨_, .accountDataKey account index rest⟩

/-! ### Entries -/

/-- What the 35 bytes of an entry say: a tag, a config, and two flags, each set iff its byte is not
zero. -/
inductive Entry.Means : Bytes → Entry → Prop
  | mk {tag signer writable : UInt8} {config : Bytes} {a : AddressConfig}
      (hsize : config.length = 32) (haddress : AddressConfig.Means tag config a) :
      Means (tag :: (config ++ [signer, writable])) ⟨a, signer != 0, writable != 0⟩

/-- The entries that mean something, by their tag and their config. -/
def Entry.WellFormed (raw : Bytes) : Prop :=
  ∃ tag, raw[0]? = some tag ∧ AddressConfig.WellFormed tag ((raw.drop 1).take 32)

/-- An entry's bytes are a tag, a config of 32 bytes, and two flags. -/
theorem Entry.exists_parts {raw : Bytes} (h : raw.length = 35) :
    ∃ tag config signer writable, config.length = 32 ∧
      raw = tag :: (config ++ [signer, writable]) := by
  obtain ⟨tag, rest, rfl⟩ := List.exists_cons_of_length_eq_add_one h
  have hrest : rest.length = 34 := by simpa using h
  have hflags : (rest.drop 32).length = 2 := by simp [hrest]
  obtain ⟨signer, writable, hpair⟩ := List.length_eq_two.1 hflags
  refine ⟨tag, rest.take 32, signer, writable, by simp [hrest], ?_⟩
  rw [← hpair, List.take_append_drop]

/-- The parts of an entry's bytes, read off by their offsets. -/
theorem Entry.drop_parts {config : Bytes} (hsize : config.length = 32)
    (tag signer writable : UInt8) :
    ((tag :: (config ++ [signer, writable])).drop 1).take 32 = config ∧
      (tag :: (config ++ [signer, writable])).drop 33 = [signer, writable] := by
  simp [List.take_left' hsize, List.drop_left' hsize]

theorem Entry.decode_eq_ok_iff {raw : Bytes} {e : Entry} :
    Entry.decode raw = .ok e ↔ Entry.Means raw e := by
  constructor
  · intro h
    unfold Entry.decode at h
    split at h
    · rename_i tag signer writable htag hflags
      have hlen : raw.length = 35 := by
        have hdrop := congrArg List.length hflags
        simp [configSize] at hdrop
        omega
      obtain ⟨tag', config, signer', writable', hsize, rfl⟩ := Entry.exists_parts hlen
      obtain ⟨hconfig, hlast⟩ := Entry.drop_parts hsize tag' signer' writable'
      rw [show 1 + configSize = 33 from rfl, hlast] at hflags
      cases htag
      cases hflags
      rw [configSize, hconfig] at h
      split at h
      · rename_i a ha
        cases h
        exact .mk hsize (AddressConfig.decode_eq_ok_iff.1 ha)
      · cases h
    · cases h
  · rintro ⟨hsize, haddress⟩
    obtain ⟨hconfig, hflags⟩ := Entry.drop_parts hsize _ _ _
    rw [Entry.decode, List.head?_cons, show 1 + configSize = 33 from rfl, hflags, configSize,
      hconfig]
    dsimp only
    rw [AddressConfig.decode_eq_ok_iff.2 haddress]

theorem Entry.exists_means_iff {raw : Bytes} (h : raw.length = 35) :
    (∃ e, Entry.Means raw e) ↔ Entry.WellFormed raw := by
  obtain ⟨tag, config, signer, writable, hsize, rfl⟩ := Entry.exists_parts h
  obtain ⟨hconfig, -⟩ := Entry.drop_parts hsize tag signer writable
  have hwellFormed : Entry.WellFormed (tag :: (config ++ [signer, writable]))
      ↔ AddressConfig.WellFormed tag config := by
    rw [Entry.WellFormed, hconfig]
    simp
  rw [hwellFormed, ← AddressConfig.exists_means_iff hsize]
  constructor
  · rintro ⟨e, he⟩
    generalize hraw : tag :: (config ++ [signer, writable]) = raw at he
    cases he with
    | mk hsize' haddress =>
        obtain ⟨rfl, hrest⟩ := List.cons.inj hraw
        obtain ⟨rfl, -⟩ := List.append_inj hrest (by rw [hsize, hsize'])
        exact ⟨_, haddress⟩
  · rintro ⟨a, ha⟩
    exact ⟨_, .mk hsize ha⟩

theorem Entry.decodeMany_succ_eq_ok_iff {count : Nat} {b : Bytes} {entries : List Entry} :
    Entry.decodeMany (count + 1) b = .ok entries ↔
      ∃ e rest, Entry.decode (b.take 35) = .ok e ∧ Entry.decodeMany count (b.drop 35) = .ok rest ∧
        entries = e :: rest := by
  rw [Entry.decodeMany, show Layout.entrySize = 35 from rfl]
  constructor
  · intro h
    split at h
    · cases h
    rename_i e he
    split at h
    · cases h
    rename_i rest hrest
    cases h
    exact ⟨e, rest, he, hrest, rfl⟩
  · rintro ⟨e, rest, he, hrest, rfl⟩
    rw [he, hrest]

/-- Entries back to back: the first, and the others in the bytes behind it. -/
theorem Entry.forall₂_means_succ_iff {count : Nat} {b : Bytes} {entries : List Entry} :
    List.Forall₂ (fun i e => Entry.Means ((b.drop (35 * i)).take 35) e) (List.range (count + 1))
        entries ↔
      ∃ e rest, Entry.Means (b.take 35) e ∧
        List.Forall₂ (fun i e => Entry.Means (((b.drop 35).drop (35 * i)).take 35) e)
          (List.range count) rest ∧ entries = e :: rest := by
  have hshift : ∀ i, 35 * (i + 1) = 35 + 35 * i := fun i => by omega
  simp only [List.range_succ_eq_map, List.forall₂_cons_left_iff, List.forall₂_map_left_iff,
    Nat.succ_eq_add_one, hshift, Nat.mul_zero, List.drop_zero, List.drop_drop]

/-- Entries back to back are read iff each is, from where it stands. -/
theorem Entry.decodeMany_eq_ok_iff {count : Nat} {b : Bytes} {entries : List Entry} :
    Entry.decodeMany count b = .ok entries ↔
      List.Forall₂ (fun i e => Entry.Means ((b.drop (35 * i)).take 35) e) (List.range count)
        entries := by
  induction count generalizing b entries with
  | zero => simp [Entry.decodeMany, eq_comm]
  | succ count ih =>
      rw [Entry.forall₂_means_succ_iff]
      simp only [Entry.decodeMany_succ_eq_ok_iff, Entry.decode_eq_ok_iff, ih]

/-- Only the bytes of the counted entries are read. -/
theorem Entry.decodeMany_take (count : Nat) (b : Bytes) :
    Entry.decodeMany count (b.take (35 * count)) = Entry.decodeMany count b := by
  induction count generalizing b with
  | zero => rfl
  | succ count ih =>
      have hhead : (b.take (35 * (count + 1))).take Layout.entrySize = b.take Layout.entrySize := by
        rw [List.take_take, Nat.min_eq_left (by simp only [Layout.entrySize, configSize]; omega)]
      have htail : (b.take (35 * (count + 1))).drop Layout.entrySize
          = (b.drop Layout.entrySize).take (35 * count) := by
        rw [List.drop_take, show 35 * (count + 1) - Layout.entrySize = 35 * count from by
          simp only [Layout.entrySize, configSize]; omega]
      rw [Entry.decodeMany, Entry.decodeMany, hhead, htail, ih]

/-! ### Records -/

/-- The rules for the header of a record. -/
structure Descriptor.Header (data : Bytes) (accepted : Option (List Bytes)) : Prop where
  size : 16 ≤ data.length
  discriminator : ∀ known, accepted = some known → data.take 8 ∈ known
  length_eq : data.declaredLength = 4 + 35 * data.declaredCount
  limit : data.declaredCount ≤ 32
  fits : 12 + data.declaredLength ≤ data.length

/-- The rules for an account that holds a descriptor. -/
structure Descriptor.LaidOut (data : Bytes) (accepted : Option (List Bytes)) : Prop
    extends Descriptor.Header data accepted where
  entries : ∀ i < data.declaredCount, Entry.WellFormed (data.entryAt i)

/-- What an account's bytes say: its discriminator, its length, and its entries in order. -/
structure Descriptor.Says (data : Bytes) (content : Descriptor) : Prop where
  discriminator : content.discriminator = data.take 8
  length : content.length = data.declaredLength
  entries : List.Forall₂ (fun i e => Entry.Means (data.entryAt i) e)
    (List.range data.declaredCount) content.entries

/-- An account whose header keeps the rules is read entry by entry. -/
theorem Descriptor.decode_eq_of_header {data : Bytes} {accepted : Option (List Bytes)}
    (h : Descriptor.Header data accepted) :
    Descriptor.decode data accepted
      = (Entry.decodeMany data.declaredCount (data.drop 16)).map
          (⟨data.take 8, data.declaredLength, ·⟩) := by
  obtain ⟨hsize, hdiscriminator, hlength, hlimit, hfits⟩ := h
  have hread : data.readU32 discriminatorSize = data.declaredLength :=
    Bytes.readU32_eq (Nat.le_trans (by decide) hsize)
  have hcount : Bytes.readU32 ((data.drop headerSize).take data.declaredLength) 0
      = data.declaredCount :=
    Bytes.readU32_value (by omega) hfits
  have hbody : ((data.drop headerSize).take data.declaredLength).drop countSize
      = (data.drop 16).take (35 * data.declaredCount) := by
    rw [List.drop_take, List.drop_drop, hlength]
    exact congrArg (List.take · _) (Nat.add_sub_cancel_left 4 _)
  have hfilter : accepted.any (fun known => !known.contains (data.take discriminatorSize))
      = false := by
    cases accepted with
    | none => rfl
    | some known =>
        have hmem : data.take discriminatorSize ∈ known := hdiscriminator known rfl
        simp [hmem]
  -- the rules again, in the form of the decoder's checks
  have hsize : ¬ data.length < headerSize + countSize := Nat.not_lt.2 hsize
  have hfits : ¬ data.length < headerSize + data.declaredLength := Nat.not_lt.2 hfits
  have hlimit : ¬ maxEntries < data.declaredCount := Nat.not_lt.2 hlimit
  have hmatch : ¬ data.declaredLength ≠ countSize + Layout.entrySize * data.declaredCount :=
    not_not.2 hlength
  have hroom : ¬ data.declaredLength < countSize := by
    rw [hlength, countSize]
    omega
  rw [Descriptor.decode, hread, hcount, hbody, hfilter, if_neg hsize, if_neg Bool.false_ne_true,
    if_neg hfits, if_neg hroom, if_neg hlimit, if_neg hmatch, Entry.decodeMany_take]
  rfl

/-- The decoder's checks, one after the other, leave only headers that keep the rules. -/
theorem Descriptor.header_of_decode {data : Bytes} {accepted : Option (List Bytes)}
    {content : Descriptor} (h : Descriptor.decode data accepted = .ok content) :
    Descriptor.Header data accepted := by
  rw [Descriptor.decode] at h
  split at h
  · cases h
  rename_i hsize
  have hsize : 16 ≤ data.length := Nat.le_of_not_lt hsize
  have hread : data.readU32 discriminatorSize = data.declaredLength :=
    Bytes.readU32_eq (Nat.le_trans (by decide) hsize)
  rw [hread] at h
  split at h
  · cases h
  rename_i hfilter
  split at h
  · cases h
  rename_i hfits
  split at h
  · cases h
  rename_i hcountFits
  have hfits : 12 + data.declaredLength ≤ data.length := Nat.le_of_not_lt hfits
  have hcount : Bytes.readU32 ((data.drop headerSize).take data.declaredLength) 0
      = data.declaredCount :=
    Bytes.readU32_value (Nat.le_of_not_lt hcountFits) hfits
  rw [hcount] at h
  split at h
  · cases h
  rename_i hlimit
  split at h
  · cases h
  rename_i hlength
  refine ⟨hsize, ?_, not_not.1 hlength, Nat.le_of_not_lt hlimit, hfits⟩
  rintro known rfl
  have hmem : data.take discriminatorSize ∈ known := by simpa using hfilter
  exact hmem

theorem Descriptor.decode_eq_ok_iff {data : Bytes} {accepted : Option (List Bytes)}
    {content : Descriptor} :
    Descriptor.decode data accepted = .ok content ↔
      Descriptor.Header data accepted ∧ Descriptor.Says data content := by
  have hmany : ∀ entries, Entry.decodeMany data.declaredCount (data.drop 16) = .ok entries ↔
      List.Forall₂ (fun i e => Entry.Means (data.entryAt i) e) (List.range data.declaredCount)
        entries := by
    intro entries
    simp only [Entry.decodeMany_eq_ok_iff, List.drop_drop, Bytes.entryAt]
  constructor
  · intro h
    have hheader := Descriptor.header_of_decode h
    rw [Descriptor.decode_eq_of_header hheader, Except.map_eq_ok_iff] at h
    obtain ⟨entries, hentries, rfl⟩ := h
    exact ⟨hheader, rfl, rfl, (hmany entries).1 hentries⟩
  · rintro ⟨hheader, hread⟩
    rw [Descriptor.decode_eq_of_header hheader, (hmany _).2 hread.entries, Except.map,
      ← hread.discriminator, ← hread.length]

/-- An account whose header keeps the rules says something iff each of its entries does. -/
theorem Descriptor.Header.exists_says_iff {data : Bytes} {accepted : Option (List Bytes)}
    (h : Descriptor.Header data accepted) :
    (∃ content, Descriptor.Says data content) ↔
      ∀ i < data.declaredCount, Entry.WellFormed (data.entryAt i) := by
  have hentry : ∀ i ∈ List.range data.declaredCount,
      (∃ e, Entry.Means (data.entryAt i) e) ↔ Entry.WellFormed (data.entryAt i) := by
    intro i hi
    have hlt := List.mem_range.1 hi
    have hlength := h.length_eq
    have hfits := h.fits
    apply Entry.exists_means_iff
    rw [Bytes.entryAt, List.length_take, List.length_drop]
    omega
  have hall : (∀ i < data.declaredCount, Entry.WellFormed (data.entryAt i)) ↔
      ∀ i ∈ List.range data.declaredCount, ∃ e, Entry.Means (data.entryAt i) e := by
    simp only [← List.mem_range]
    exact (forall₂_congr hentry).symm
  rw [hall, ← exists_forall₂_iff]
  constructor
  · rintro ⟨content, hread⟩
    exact ⟨content.entries, hread.entries⟩
  · rintro ⟨entries, hentries⟩
    exact ⟨⟨_, _, entries⟩, rfl, rfl, hentries⟩

/-- **The decoder accepts exactly the layout.** An account is read as a descriptor iff it keeps the
rules for its header and for each of its entries, and the descriptor is then what its bytes say. It
is refused, and only for a violation of the layout, iff it does not keep them. -/
theorem Descriptor.decode_eq_ok_iff_laidOut (data : Bytes) (accepted : Option (List Bytes)) :
    (∀ content, Descriptor.decode data accepted = .ok content ↔
        Descriptor.LaidOut data accepted ∧ Descriptor.Says data content) ∧
      ((∃ content, Descriptor.decode data accepted = .ok content) ↔
        Descriptor.LaidOut data accepted) ∧
      ((∃ e, Descriptor.decode data accepted = .error e ∧ e.isViolation = true) ↔
        ¬ Descriptor.LaidOut data accepted) := by
  have haccept : (∃ content, Descriptor.decode data accepted = .ok content) ↔
      Descriptor.LaidOut data accepted := by
    simp only [Descriptor.decode_eq_ok_iff, exists_and_left]
    constructor
    · rintro ⟨hheader, hread⟩
      exact ⟨hheader, hheader.exists_says_iff.1 hread⟩
    · rintro ⟨hheader, hentries⟩
      exact ⟨hheader, hheader.exists_says_iff.2 hentries⟩
  refine ⟨fun content => ?_, haccept, ?_⟩
  · rw [← haccept, Descriptor.decode_eq_ok_iff]
    constructor
    · intro h
      exact ⟨⟨content, Descriptor.decode_eq_ok_iff.2 h⟩, h.2⟩
    · rintro ⟨⟨other, hother⟩, hread⟩
      exact ⟨Descriptor.header_of_decode hother, hread⟩
  · rw [← haccept]
    constructor
    · rintro ⟨e, he, -⟩ ⟨content, hcontent⟩
      rw [he] at hcontent
      cases hcontent
    · intro hnone
      cases h : Descriptor.decode data accepted with
      | ok content => exact absurd ⟨content, h⟩ hnone
      | error e => exact ⟨e, rfl, Descriptor.isViolation_of_decode h⟩

end ExtraMetas

import ExtraMetas.Descriptor.Encode
import ExtraMetas.Proofs.Outcome

/-!
# ExtraMetas.Proofs.Descriptor.Encoding

What a draft has been turned into when it **could be encoded**. Each check of the encoder has an
inversion lemma here: a seed, a key source or an address that was accepted is the one whose draft
was given, and a record is its header in front of one block of bytes for each entry.

A flag may be given as a number and a program index as a truth value; such a draft is accepted, but
it is not the draft of what a reader of the bytes will see. `Draft.hasPlainFields` tells these
drafts from the others.

The draft of what was read is always accepted, as far as there is room for it
(`Entry.packEntry_toDraft`, `encodeDescriptor_of_packEntry`).
-/

namespace ExtraMetas

open Layout

/-! ### Plain fields -/

/-- Are both flags given as truth values? -/
def Flags.arePlain : Flags → Bool
  | ⟨.bool _, .bool _⟩ => true
  | _ => false

/-- Are the flags of an entry truth values and its program index a whole number? The other numeric
fields of a draft that can be encoded are whole numbers anyway. -/
def Draft.hasPlainFields : Draft → Bool
  | literalAddress _ flags | ownSeeds _ flags | keyData _ flags => flags.arePlain
  | externalSeeds (.int _) _ flags => flags.arePlain
  | _ => false

theorem Flags.eq_of_arePlain {flags : Flags} (h : flags.arePlain = true) :
    flags = ⟨.bool flags.isSigner.isSet, .bool flags.isWritable.isSet⟩ := by
  obtain ⟨signer, writable⟩ := flags
  cases signer with
  | int n => cases h
  | bool s =>
      cases writable with
      | int n => cases h
      | bool w => simp

/-! ### Fields -/

theorem eq_ofByte_of_octet {name : String} {v : Value} {x : UInt8} (h : octet name v = .ok x) :
    v = .ofByte x := by
  cases v with
  | int n =>
      by_cases hn : 0 ≤ n ∧ n ≤ 255
      · have hx : UInt8.ofNat n.toNat = x := by simpa [octet, hn] using h
        have hval : (n.toNat : Int) = n := Int.toNat_of_nonneg hn.1
        have hmod : n.toNat % 2 ^ 8 = n.toNat := Nat.mod_eq_of_lt (by omega)
        rw [Value.ofByte, ← hx, UInt8.toNat_ofNat', hmod, hval]
      · simp [octet, hn] at h
  | null => cases h
  | bool b => cases h
  | fraction x => cases h
  | text s => cases h
  | list items => cases h
  | record fields => cases h

/-- The byte of a flag is zero iff the flag is not set. -/
theorem isSet_of_flagByte {f : ByteField} {x : UInt8} (h : flagByte f = .ok x) :
    (x != 0) = f.isSet := by
  by_cases hf : 0 ≤ f.toInt ∧ f.toInt ≤ 255
  · have hx : UInt8.ofNat f.toInt.toNat = x := by simpa [flagByte, ByteField.toByte?, hf] using h
    have hmod : f.toInt.toNat % 2 ^ 8 = f.toInt.toNat := Nat.mod_eq_of_lt (by omega)
    have hzero : x = 0 ↔ f.toInt = 0 := by
      rw [← hx, ← UInt8.toNat_inj, UInt8.toNat_ofNat', hmod]
      simp only [UInt8.toNat_zero]
      omega
    rw [ByteField.isSet, Bool.eq_iff_iff, bne_iff_ne, bne_iff_ne, Ne, Ne, hzero]
  · simp [flagByte, ByteField.toByte?, hf] at h

theorem eq_int_of_programIndex {n : Int} {i : Fin externalSeedsFlag}
    (h : programIndex (.int n) = .ok i) : n = i.val := by
  rw [programIndex, Value.integer?_int] at h
  dsimp only at h
  split at h
  · rename_i hn
    cases h
    exact (Int.toNat_of_nonneg hn.1).symm
  · cases h

/-! ### Seeds and key sources -/

theorem Draft.toDraft_of_toSeed {d : Draft} {seed : Seed} (h : d.toSeed = .ok seed) :
    seed.toDraft = d := by
  cases d with
  | literal value =>
      rw [Draft.toSeed] at h
      split at h
      · cases h
      · cases h
        rfl
  | instructionData index length =>
      obtain ⟨x, hx, h⟩ := Except.bind_eq_ok_iff.1 h
      obtain ⟨y, hy, h⟩ := Except.bind_eq_ok_iff.1 h
      cases Except.pure_eq_ok_iff.1 h
      rw [Seed.toDraft, ← eq_ofByte_of_octet hx, ← eq_ofByte_of_octet hy]
  | accountKey index =>
      obtain ⟨x, hx, h⟩ := Except.bind_eq_ok_iff.1 h
      cases Except.pure_eq_ok_iff.1 h
      rw [Seed.toDraft, ← eq_ofByte_of_octet hx]
  | accountData account index length =>
      obtain ⟨x, hx, h⟩ := Except.bind_eq_ok_iff.1 h
      obtain ⟨y, hy, h⟩ := Except.bind_eq_ok_iff.1 h
      obtain ⟨z, hz, h⟩ := Except.bind_eq_ok_iff.1 h
      cases Except.pure_eq_ok_iff.1 h
      rw [Seed.toDraft, ← eq_ofByte_of_octet hx, ← eq_ofByte_of_octet hy, ← eq_ofByte_of_octet hz]
  | _ => cases h

/-- Seeds that were accepted are the given ones, and one config has room for them. -/
theorem Draft.toDraft_of_toSeeds {drafts : List Draft} {seeds : List Seed}
    (h : Draft.toSeeds drafts = .ok seeds) :
    seeds.map Seed.toDraft = drafts ∧ (seeds.flatMap Seed.pack).length ≤ configSize := by
  obtain ⟨seeds', hseeds, h⟩ := Except.bind_eq_ok_iff.1 h
  dsimp only at h
  split at h
  · cases h
  · rename_i hsize
    cases h
    refine ⟨?_, Nat.le_of_not_lt hsize⟩
    have hdrafts : List.Forall₂ (fun d seed => Seed.toDraft seed = d) drafts seeds :=
      (Except.mapM_eq_ok_iff.1 hseeds).imp fun _ _ => Draft.toDraft_of_toSeed
    rw [← List.forall₂_eq_eq_eq, List.forall₂_map_left_iff]
    exact hdrafts.flip

theorem Draft.toDraft_of_toKeySource {d : Draft} {source : KeySource}
    (h : d.toKeySource = .ok source) : source.toDraft = d := by
  cases d with
  | instructionDataKey index =>
      obtain ⟨x, hx, h⟩ := Except.bind_eq_ok_iff.1 h
      cases Except.pure_eq_ok_iff.1 h
      rw [KeySource.toDraft, ← eq_ofByte_of_octet hx]
  | accountDataKey account index =>
      obtain ⟨x, hx, h⟩ := Except.bind_eq_ok_iff.1 h
      obtain ⟨y, hy, h⟩ := Except.bind_eq_ok_iff.1 h
      cases Except.pure_eq_ok_iff.1 h
      rw [KeySource.toDraft, ← eq_ofByte_of_octet hx, ← eq_ofByte_of_octet hy]
  | _ => cases h

/-! ### Addresses and entries -/

/-- Has one config room for the address? -/
def AddressConfig.Fits : AddressConfig → Prop
  | literal _ | keyData _ => True
  | ownSeeds seeds | externalSeeds _ seeds => (seeds.flatMap Seed.pack).length ≤ configSize

theorem Draft.fits_of_toAddress {d : Draft} {a : AddressConfig} {flags : Flags}
    (h : d.toAddress = .ok (a, flags)) : a.Fits := by
  cases d with
  | literalAddress address flags =>
      cases h
      trivial
  | ownSeeds seeds flags =>
      obtain ⟨seeds', hseeds, h⟩ := Except.bind_eq_ok_iff.1 h
      cases Except.pure_eq_ok_iff.1 h
      exact (Draft.toDraft_of_toSeeds hseeds).2
  | externalSeeds index seeds flags =>
      obtain ⟨i, -, h⟩ := Except.bind_eq_ok_iff.1 h
      obtain ⟨seeds', hseeds, h⟩ := Except.bind_eq_ok_iff.1 h
      cases Except.pure_eq_ok_iff.1 h
      exact (Draft.toDraft_of_toSeeds hseeds).2
  | keyData source flags =>
      obtain ⟨source', -, h⟩ := Except.bind_eq_ok_iff.1 h
      cases Except.pure_eq_ok_iff.1 h
      trivial
  | _ => cases h

/-- The entry that an accepted draft means is the draft again, if its fields are plain. -/
theorem Draft.toDraft_of_toAddress {d : Draft} {a : AddressConfig} {flags : Flags}
    (hplain : d.hasPlainFields = true) (h : d.toAddress = .ok (a, flags)) :
    Entry.toDraft ⟨a, flags.isSigner.isSet, flags.isWritable.isSet⟩ = d := by
  cases d with
  | literalAddress address flags =>
      cases h
      rw [Entry.toDraft, ← Flags.eq_of_arePlain hplain]
  | ownSeeds seeds flags =>
      obtain ⟨seeds', hseeds, h⟩ := Except.bind_eq_ok_iff.1 h
      cases Except.pure_eq_ok_iff.1 h
      rw [Entry.toDraft, ← Flags.eq_of_arePlain hplain]
      dsimp only
      rw [(Draft.toDraft_of_toSeeds hseeds).1]
  | externalSeeds index seeds flags =>
      obtain ⟨i, hi, h⟩ := Except.bind_eq_ok_iff.1 h
      obtain ⟨seeds', hseeds, h⟩ := Except.bind_eq_ok_iff.1 h
      cases Except.pure_eq_ok_iff.1 h
      cases index with
      | int n =>
          rw [Entry.toDraft, ← Flags.eq_of_arePlain hplain]
          dsimp only
          rw [(Draft.toDraft_of_toSeeds hseeds).1, ← eq_int_of_programIndex hi]
      | _ => cases hplain
  | keyData source flags =>
      obtain ⟨source', hsource, h⟩ := Except.bind_eq_ok_iff.1 h
      cases Except.pure_eq_ok_iff.1 h
      rw [Entry.toDraft, ← Flags.eq_of_arePlain hplain]
      dsimp only
      rw [Draft.toDraft_of_toKeySource hsource]
  | _ => cases h

theorem Draft.packEntry_eq_ok {d : Draft} {raw : Bytes} (h : d.packEntry = .ok raw) :
    ∃ a flags signer writable, d.toAddress = .ok (a, flags) ∧
      flagByte flags.isSigner = .ok signer ∧ flagByte flags.isWritable = .ok writable ∧
      raw = a.pack ++ [signer, writable] := by
  obtain ⟨⟨a, flags⟩, ha, h⟩ := Except.bind_eq_ok_iff.1 h
  obtain ⟨signer, hsigner, h⟩ := Except.bind_eq_ok_iff.1 h
  obtain ⟨writable, hwritable, h⟩ := Except.bind_eq_ok_iff.1 h
  exact ⟨a, flags, signer, writable, ha, hsigner, hwritable, (Except.pure_eq_ok_iff.1 h).symm⟩

/-! ### Records -/

theorem word_eq_ok {n : Nat} {b : Bytes} (h : word n = .ok b) : b = Bytes.ofNatLE 4 n := by
  rw [word] at h
  split at h
  · cases h
    rfl
  · cases h

/-- A record is the discriminator, the length of what follows it, the count, and one block for each
draft. -/
theorem encodeDescriptor_eq_ok {discriminator record : Bytes} {drafts : List Draft}
    (h : encodeDescriptor discriminator drafts = .ok record) :
    discriminator.length = discriminatorSize ∧ drafts.length ≤ maxEntries ∧
      ∃ raws, List.Forall₂ (fun d raw => Draft.packEntry d = .ok raw) drafts raws ∧
        record = discriminator ++ Bytes.ofNatLE 4 (countSize + raws.flatten.length)
          ++ (Bytes.ofNatLE 4 drafts.length ++ raws.flatten) := by
  rw [encodeDescriptor] at h
  split at h
  · cases h
  rename_i hsize
  split at h
  · cases h
  rename_i hcount
  obtain ⟨raws, hraws, h⟩ := Except.bind_eq_ok_iff.1 h
  obtain ⟨count, hcountBytes, h⟩ := Except.bind_eq_ok_iff.1 h
  obtain ⟨length, hlength, h⟩ := Except.bind_eq_ok_iff.1 h
  refine ⟨not_not.1 hsize, Nat.le_of_not_lt hcount, raws, Except.mapM_eq_ok_iff.1 hraws, ?_⟩
  rw [← Except.pure_eq_ok_iff.1 h, word_eq_ok hlength, word_eq_ok hcountBytes, List.length_append,
    Bytes.length_ofNatLE, countSize]

/-- A record whose header keeps its limits is refused as one of its entries is. -/
theorem encodeDescriptor_of_refused {discriminator : Bytes} {drafts : List Draft} {e : EncodeError}
    (hsize : discriminator.length = discriminatorSize) (hcount : drafts.length ≤ maxEntries)
    (h : drafts.mapM Draft.packEntry = .error e) :
    encodeDescriptor discriminator drafts = .error e := by
  rw [encodeDescriptor, if_neg (not_not.2 hsize), if_neg (Nat.not_lt.2 hcount), h]
  rfl

/-! ### Drafts of what was decoded

The converse of the inversions above. A decoded index is a byte, so of the encoder's refusals only
those for the room in a config are left, and seeds that fit are never refused for it. -/

theorem octet_ofByte (name : String) (x : UInt8) : octet name (.ofByte x) = .ok x := by
  have hx := x.toNat_lt
  have hrange : 0 ≤ (x.toNat : Int) ∧ (x.toNat : Int) ≤ 255 := by omega
  simp [octet, Value.ofByte, hrange]

theorem programIndex_val (i : Fin externalSeedsFlag) : programIndex (.int i.val) = .ok i := by
  have hi : 0 ≤ (i.val : Int) ∧ (i.val : Int) < externalSeedsFlag := by
    have hlt := i.isLt
    omega
  rw [programIndex, Value.integer?_int]
  dsimp only
  rw [dif_pos hi]
  simp

theorem Seed.toSeed_toDraft {seed : Seed} (h : seed.pack.length ≤ configSize) :
    seed.toDraft.toSeed = .ok seed := by
  cases seed with
  | literal value =>
      have hroom : ¬ maxLiteralSize < value.length := by
        simp only [Seed.pack, List.length_cons, configSize] at h
        simp only [maxLiteralSize, configSize]
        omega
      rw [Seed.toDraft, Draft.toSeed, if_neg hroom]
  | instructionData index length =>
      rw [Seed.toDraft, Draft.toSeed, octet_ofByte, octet_ofByte]
      rfl
  | accountKey index =>
      rw [Seed.toDraft, Draft.toSeed, octet_ofByte]
      rfl
  | accountData account index length =>
      rw [Seed.toDraft, Draft.toSeed, octet_ofByte, octet_ofByte, octet_ofByte]
      rfl

theorem Seed.toSeeds_toDraft {seeds : List Seed}
    (h : (seeds.flatMap Seed.pack).length ≤ configSize) :
    Draft.toSeeds (seeds.map Seed.toDraft) = .ok seeds := by
  have hseeds : (seeds.map Seed.toDraft).mapM Draft.toSeed = .ok seeds := by
    rw [Except.mapM_eq_ok_iff, List.forall₂_map_left_iff, List.forall₂_same]
    intro seed hseed
    refine Seed.toSeed_toDraft (Nat.le_trans ?_ h)
    exact (List.sublist_flatten_of_mem (List.mem_map_of_mem hseed)).length_le
  rw [Draft.toSeeds, hseeds]
  show (if configSize < (seeds.flatMap Seed.pack).length then _ else _) = _
  rw [if_neg (Nat.not_lt.2 h)]

theorem KeySource.toKeySource_toDraft (source : KeySource) :
    source.toDraft.toKeySource = .ok source := by
  cases source with
  | instructionData index =>
      rw [KeySource.toDraft, Draft.toKeySource, octet_ofByte]
      rfl
  | accountData account index =>
      rw [KeySource.toDraft, Draft.toKeySource, octet_ofByte, octet_ofByte]
      rfl

/-- An entry whose address has room in one config is written, with each flag as 0 or 1. -/
theorem Entry.packEntry_toDraft {e : Entry} (h : e.address.Fits) :
    e.toDraft.packEntry = .ok (e.address.pack
      ++ [if e.isSigner then 1 else 0, if e.isWritable then 1 else 0]) := by
  obtain ⟨address, signer, writable⟩ := e
  have haddress : Draft.toAddress (Entry.toDraft ⟨address, signer, writable⟩)
      = .ok (address, ⟨.bool signer, .bool writable⟩) := by
    cases address with
    | literal address => rfl
    | ownSeeds seeds =>
        rw [Entry.toDraft, Draft.toAddress, Seed.toSeeds_toDraft h]
        rfl
    | externalSeeds index seeds =>
        rw [Entry.toDraft, Draft.toAddress, programIndex_val, Seed.toSeeds_toDraft h]
        rfl
    | keyData source =>
        rw [Entry.toDraft, Draft.toAddress, KeySource.toKeySource_toDraft]
        rfl
  rw [Draft.packEntry, haddress]
  simp [flagByte, pure, Except.pure, bind, Except.bind]

theorem word_ofNat {n : Nat} (h : n < 0x100000000) : word n = .ok (Bytes.ofNatLE 4 n) := by
  have hn : 0 ≤ (n : Int) ∧ (n : Int) ≤ 0xFFFFFFFF := by omega
  rw [word, if_pos hn, Int.toNat_natCast]

/-- Blocks that drafts were written as make a record, if there are not too many of them. -/
theorem encodeDescriptor_of_packEntry {discriminator : Bytes} {drafts : List Draft}
    {raws : List Bytes} (hsize : discriminator.length = discriminatorSize)
    (hcount : drafts.length ≤ maxEntries)
    (hraws : List.Forall₂ (fun d raw => Draft.packEntry d = .ok raw) drafts raws)
    (hbody : raws.flatten.length ≤ 0x10000) :
    encodeDescriptor discriminator drafts
      = .ok (discriminator ++ Bytes.ofNatLE 4 (countSize + raws.flatten.length)
          ++ (Bytes.ofNatLE 4 drafts.length ++ raws.flatten)) := by
  have hdrafts : drafts.length < 0x100000000 := by
    simp only [maxEntries] at hcount
    omega
  have hvalue : (Bytes.ofNatLE 4 drafts.length ++ raws.flatten).length
      = countSize + raws.flatten.length := by
    rw [List.length_append, Bytes.length_ofNatLE, countSize]
  have hlength : countSize + raws.flatten.length < 0x100000000 := by
    rw [countSize]
    omega
  rw [encodeDescriptor, if_neg (not_not.2 hsize), if_neg (Nat.not_lt.2 hcount)]
  refine Except.bind_eq_ok_iff.2 ⟨raws, Except.mapM_eq_ok_iff.2 hraws, ?_⟩
  refine Except.bind_eq_ok_iff.2 ⟨_, word_ofNat hdrafts, ?_⟩
  refine Except.bind_eq_ok_iff.2 ⟨Bytes.ofNatLE 4 (countSize + raws.flatten.length), ?_, rfl⟩
  rw [hvalue, word_ofNat hlength]

end ExtraMetas

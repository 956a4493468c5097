import ExtraMetas.Gate
import Mathlib.Data.List.Basic

/-!
# ExtraMetas.Proofs.MintConfig

**Which bytes are a mint config**, and what they say. A config is a record of 100 bytes with the tag
1 (`MintConfig.exists_decode_iff`); each of its fields stands at a place of its own
(`MintConfig.decode_eq_ok_iff`), the flags of the two operations in the last two bytes.

A written config means the config (`MintConfig.means_encode`), and bytes that mean it are the
written ones up to their flags (`MintConfig.Means.exists_eq_append`): reading forgets which byte but
zero set a flag, and writing sets it by a 1 (`MintConfig.codec_laws`).
-/

namespace ExtraMetas

/-- What the bytes of a mint config say, field by field. -/
structure MintConfig.Means (b : Bytes) (c : MintConfig) : Prop where
  size : b.length = 100
  tag : b[0]? = some 1
  mint : c.mint.bytes = (b.drop 1).take 32
  freezeAuthority : c.freezeAuthority.bytes = (b.drop 33).take 32
  gatingProgram : c.gatingProgram.bytes = (b.drop 65).take 32
  bump : b[97]? = some c.bump
  thaw : c.permissionlessThaw = true ↔ b[98]? ≠ some 0
  freeze : c.permissionlessFreeze = true ↔ b[99]? ≠ some 0

/-- Where in a mint config the flag of an operation stands. -/
def Operation.flagOffset : Operation → Nat
  | thaw => 98
  | freeze => 99

namespace MintConfig

variable {b : Bytes} {c : MintConfig}

/-- The last three bytes of a record of 100. -/
theorem drop_eq_of_length (h : b.length = 100) :
    ∃ bump thaw freeze, b.drop 97 = [bump, thaw, freeze] ∧ b[97]? = some bump ∧
      b[98]? = some thaw ∧ b[99]? = some freeze := by
  have hlength : (b.drop 97).length = 3 := by rw [List.length_drop, h]
  obtain ⟨bump, thaw, freeze, hdrop⟩ := List.length_eq_three.1 hlength
  have hlast : ∀ i, b[97 + i]? = [bump, thaw, freeze][i]? := by
    intro i
    rw [← hdrop, List.getElem?_drop]
  exact ⟨bump, thaw, freeze, hdrop, hlast 0, hlast 1, hlast 2⟩

theorem length_of_drop_eq {bump thaw freeze : UInt8} (h : b.drop 97 = [bump, thaw, freeze]) :
    b.length = 100 := by
  have hthree := congrArg List.length h
  rw [List.length_drop, List.length_cons, List.length_cons, List.length_singleton] at hthree
  omega

theorem means_of_decode (h : decode b = .ok c) : Means b c := by
  unfold decode at h
  split at h
  · rename_i tag mint freezeAuthority gatingProgram bump thaw freeze htag hmint hfreeze hgating hdrop
    split at h
    · rename_i hone
      cases h
      have hlength := length_of_drop_eq hdrop
      obtain ⟨_, _, _, hdrop', hbumpAt, hthawAt, hfreezeAt⟩ := drop_eq_of_length hlength
      rw [hdrop] at hdrop'
      cases hdrop'
      exact {
        size := hlength
        tag := by rw [htag, hone, discriminator]
        mint := Pubkey.ofBytes?_eq_some_iff.1 hmint
        freezeAuthority := Pubkey.ofBytes?_eq_some_iff.1 hfreeze
        gatingProgram := Pubkey.ofBytes?_eq_some_iff.1 hgating
        bump := hbumpAt
        thaw := by simp [hthawAt]
        freeze := by simp [hfreezeAt] }
    · cases h
  · cases h

theorem decode_of_means (h : Means b c) : decode b = .ok c := by
  obtain ⟨mint, freezeAuthority, gatingProgram, bump, permissionlessThaw, permissionlessFreeze⟩ := c
  obtain ⟨_, thaw, freeze, hdrop, hbumpAt, hthawAt, hfreezeAt⟩ := drop_eq_of_length h.size
  have hmint : keyAt b 1 = some mint := Pubkey.ofBytes?_eq_some_iff.2 h.mint
  have hauthority : keyAt b 33 = some freezeAuthority :=
    Pubkey.ofBytes?_eq_some_iff.2 h.freezeAuthority
  have hgating : keyAt b 65 = some gatingProgram := Pubkey.ofBytes?_eq_some_iff.2 h.gatingProgram
  obtain rfl := Option.some.inj (hbumpAt.symm.trans h.bump)
  -- a flag is what its byte makes of it
  have hthaw : (thaw != 0) = permissionlessThaw := by
    rw [Bool.eq_iff_iff, h.thaw, hthawAt]
    simp
  have hfreeze : (freeze != 0) = permissionlessFreeze := by
    rw [Bool.eq_iff_iff, h.freeze, hfreezeAt]
    simp
  rw [decode, h.tag, hmint, hauthority, hgating, hdrop]
  dsimp only
  rw [if_pos (show (1 : UInt8) = discriminator from rfl), hthaw, hfreeze]

/-- The decoder reads each field from its place. -/
theorem decode_eq_ok_iff : decode b = .ok c ↔ Means b c :=
  ⟨means_of_decode, decode_of_means⟩

/-- Any 32 bytes of a record are a key. -/
theorem exists_bytes_eq (offset : Nat) (h : offset + 32 ≤ b.length) :
    ∃ key : Pubkey, key.bytes = (b.drop offset).take 32 := by
  have hlength : ((b.drop offset).take 32).length = 32 := by
    rw [List.length_take, List.length_drop]
    omega
  exact ⟨⟨_, hlength⟩, rfl⟩

/-- Size and tag are all that a record has to have. -/
theorem exists_decode_iff : (∃ c, decode b = .ok c) ↔ b.length = 100 ∧ b[0]? = some 1 := by
  simp only [decode_eq_ok_iff]
  constructor
  · rintro ⟨c, h⟩
    exact ⟨h.size, h.tag⟩
  · rintro ⟨hsize, htag⟩
    obtain ⟨mint, hmint⟩ := exists_bytes_eq 1 (show 1 + 32 ≤ b.length by omega)
    obtain ⟨authority, hauthority⟩ := exists_bytes_eq 33 (show 33 + 32 ≤ b.length by omega)
    obtain ⟨gating, hgating⟩ := exists_bytes_eq 65 (show 65 + 32 ≤ b.length by omega)
    obtain ⟨bump, -, -, -, hbump, -, -⟩ := drop_eq_of_length hsize
    exact ⟨⟨mint, authority, gating, bump, b[98]? ≠ some 0, b[99]? ≠ some 0⟩, hsize, htag, hmint,
      hauthority, hgating, hbump, decide_eq_true_iff, decide_eq_true_iff⟩

/-- A config allows an operation iff the byte of that operation's own flag is not zero. -/
theorem Means.allowedBy_iff (h : Means b c) (op : Operation) :
    op.allowedBy c = true ↔ b[op.flagOffset]? ≠ some 0 := by
  cases op with
  | thaw => exact h.thaw
  | freeze => exact h.freeze

/-- A gating program of zeros is none. -/
theorem Means.hasGatingProgram_eq_false_iff (h : Means b c) :
    c.hasGatingProgram = false ↔ (b.drop 65).take 32 = List.replicate 32 0 := by
  rw [hasGatingProgram, bne_eq_false_iff_eq, ← h.gatingProgram]
  constructor
  · intro hzero
    rw [hzero, Pubkey.zero]
  · exact fun hzero => Pubkey.eq_of_bytes_eq hzero

/-! ### Refused bytes -/

theorem decode_of_length_ne (h : b.length ≠ 100) : decode b = .error (.size b.length) := by
  unfold decode
  split
  · rename_i hdrop
    exact absurd (length_of_drop_eq hdrop) h
  · rfl

theorem decode_of_tag_ne {tag : UInt8} (hsize : b.length = 100) (htag : b[0]? = some tag)
    (h : tag ≠ 1) : decode b = .error (.discriminator tag) := by
  have hkey : ∀ offset, offset + 32 ≤ b.length → ∃ key, keyAt b offset = some key := by
    intro offset hroom
    obtain ⟨key, hkey⟩ := exists_bytes_eq offset hroom
    exact ⟨key, Pubkey.ofBytes?_eq_some_iff.2 hkey⟩
  obtain ⟨mint, hmint⟩ := hkey 1 (by omega)
  obtain ⟨authority, hauthority⟩ := hkey 33 (by omega)
  obtain ⟨gating, hgating⟩ := hkey 65 (by omega)
  obtain ⟨bump, thaw, freeze, hdrop, -⟩ := drop_eq_of_length hsize
  have hother : tag ≠ MintConfig.discriminator := h
  simp [decode, htag, hmint, hauthority, hgating, hdrop, hother]

/-- The size is looked at before the tag. -/
theorem decode_eq_error_iff {e : Error} :
    decode b = .error e ↔ b.length ≠ 100 ∧ e = .size b.length ∨
      ∃ tag, b.length = 100 ∧ b[0]? = some tag ∧ tag ≠ 1 ∧ e = .discriminator tag := by
  by_cases hsize : b.length = 100
  · cases htag : b[0]? with
    | none => simp [hsize] at htag
    | some tag =>
        by_cases hone : tag = 1
        · obtain ⟨c, hc⟩ := exists_decode_iff.2 ⟨hsize, hone ▸ htag⟩
          simp [hc, hsize, hone]
        · simp [decode_of_tag_ne hsize htag hone, hsize, hone, eq_comm]
  · simp [decode_of_length_ne hsize, hsize, eq_comm]

/-! ### Written bytes -/

@[simp] theorem length_encodeKeys (mint freezeAuthority gatingProgram : Pubkey) :
    (encodeKeys mint freezeAuthority gatingProgram).length = 97 := by
  simp [encodeKeys, Pubkey.size_eq]

theorem length_encode (c : MintConfig) : c.encode.length = 100 := by
  simp [encode]

/-- A key in the middle of a record. -/
theorem bytes_eq_take_drop {key : Pubkey} (before after : Bytes) {offset : Nat}
    (h : b = before ++ (key.bytes ++ after)) (hbefore : before.length = offset) :
    key.bytes = (b.drop offset).take 32 := by
  rw [h, List.drop_left' hbefore, List.take_left' key.size_eq]

theorem means_append (mint freezeAuthority gatingProgram : Pubkey) (bump thaw freeze : UInt8) :
    Means (encodeKeys mint freezeAuthority gatingProgram ++ [bump, thaw, freeze])
      ⟨mint, freezeAuthority, gatingProgram, bump, thaw != 0, freeze != 0⟩ where
  size := by simp
  tag := rfl
  mint := bytes_eq_take_drop [discriminator]
    (freezeAuthority.bytes ++ gatingProgram.bytes ++ [bump, thaw, freeze])
    (by simp [encodeKeys]) rfl
  freezeAuthority := bytes_eq_take_drop (discriminator :: mint.bytes)
    (gatingProgram.bytes ++ [bump, thaw, freeze])
    (by simp [encodeKeys]) (by simp [Pubkey.size_eq])
  gatingProgram := bytes_eq_take_drop (discriminator :: (mint.bytes ++ freezeAuthority.bytes))
    [bump, thaw, freeze] (by simp [encodeKeys]) (by simp [Pubkey.size_eq])
  bump := by simp
  thaw := by simp
  freeze := by simp

/-- A written config means the config. -/
theorem means_encode (c : MintConfig) : Means c.encode c := by
  obtain ⟨mint, freezeAuthority, gatingProgram, bump, thaw, freeze⟩ := c
  have h := means_append mint freezeAuthority gatingProgram bump (if thaw then 1 else 0)
    (if freeze then 1 else 0)
  cases thaw <;> cases freeze <;> exact h

/-- Bytes that mean a config are the written ones, up to what stands for the flags. -/
theorem Means.exists_eq_append (h : Means b c) :
    ∃ thaw freeze : UInt8, b[98]? = some thaw ∧ b[99]? = some freeze ∧
      c.permissionlessThaw = (thaw != 0) ∧ c.permissionlessFreeze = (freeze != 0) ∧
      b = encodeKeys c.mint c.freezeAuthority c.gatingProgram ++ [c.bump, thaw, freeze] := by
  obtain ⟨bump, thaw, freeze, hdrop, hbumpAt, hthawAt, hfreezeAt⟩ := drop_eq_of_length h.size
  obtain rfl := Option.some.inj (hbumpAt.symm.trans h.bump)
  have hthaw : c.permissionlessThaw = true ↔ (thaw != 0) = true := by simp [h.thaw, hthawAt]
  have hfreeze : c.permissionlessFreeze = true ↔ (freeze != 0) = true := by
    simp [h.freeze, hfreezeAt]
  have htag : b.take 1 = [discriminator] := by
    rw [List.take_one, List.head?_eq_getElem?, h.tag]
    rfl
  have hkeys : b.take (1 + 32 + 32 + 32)
      = encodeKeys c.mint c.freezeAuthority c.gatingProgram := by
    rw [List.take_add, List.take_add, List.take_add, htag, ← h.mint, ← h.freezeAuthority,
      ← h.gatingProgram]
    simp [encodeKeys]
  refine ⟨thaw, freeze, hthawAt, hfreezeAt, Bool.eq_iff_iff.2 hthaw, Bool.eq_iff_iff.2 hfreeze, ?_⟩
  rw [← hkeys, ← hdrop, List.take_append_drop]

/-! ### Writing what was read -/

/-- A config as a caller writes it. -/
def toDraft (c : MintConfig) : Draft :=
  ⟨c.mint, c.freezeAuthority, c.gatingProgram, .int c.bump.toNat, .bool c.permissionlessThaw,
    .bool c.permissionlessFreeze⟩

theorem toDraft_encode (c : MintConfig) : c.toDraft.encode = .ok c.encode := by
  have hbump : (ByteField.int c.bump.toNat).toByte? = some c.bump := by
    have hlt := c.bump.toNat_lt
    simp only [ByteField.toByte?, ByteField.toInt, Int.toNat_natCast, UInt8.ofNat_toNat]
    exact if_pos (by omega)
  simp [Draft.encode, toDraft, hbump, encode]

/-- A record with a 1 for every flag that is set. -/
def normalize (b : Bytes) : Bytes :=
  b.take 98 ++ (b.drop 98).map fun flag => if flag = 0 then 0 else 1

theorem Means.encode_eq_normalize (h : Means b c) : c.encode = normalize b := by
  obtain ⟨thaw, freeze, -, -, hthaw, hfreeze, hb⟩ := h.exists_eq_append
  have hsize : (encodeKeys c.mint c.freezeAuthority c.gatingProgram ++ [c.bump]).length = 98 := by
    simp
  rw [List.append_cons] at hb
  rw [hb, normalize, List.take_left' hsize, List.drop_left' hsize]
  simp [encode, hthaw, hfreeze]

/-- Writing gives the record back iff its flags are written as writing does it. -/
theorem Means.encode_eq_iff (h : Means b c) :
    c.encode = b ↔
      ∀ op : Operation, b[op.flagOffset]? = some 0 ∨ b[op.flagOffset]? = some 1 := by
  obtain ⟨thaw, freeze, hthawAt, hfreezeAt, hthaw, hfreeze, hb⟩ := h.exists_eq_append
  have hflag : ∀ flag : UInt8, (if flag = 0 then 0 else 1) = flag ↔ flag = 0 ∨ flag = 1 := by
    intro flag
    by_cases hzero : flag = 0
    · simp [hzero]
    · simp [hzero, eq_comm]
  have hwritten : c.encode = b ↔ (thaw = 0 ∨ thaw = 1) ∧ (freeze = 0 ∨ freeze = 1) := by
    rw [← hflag thaw, ← hflag freeze, hb]
    simp [encode, hthaw, hfreeze]
  rw [hwritten]
  constructor
  · intro hflags op
    cases op with
    | thaw => simpa [Operation.flagOffset, hthawAt] using hflags.1
    | freeze => simpa [Operation.flagOffset, hfreezeAt] using hflags.2
  · intro hflags
    have hthawFlag := hflags .thaw
    have hfreezeFlag := hflags .freeze
    simp only [Operation.flagOffset, hthawAt, hfreezeAt, Option.some.injEq] at hthawFlag hfreezeFlag
    exact ⟨hthawFlag, hfreezeFlag⟩

/-- **The codec of mint configs.** Bytes are read iff there are 100 of them and the first is the
tag, and are refused for their size or their tag otherwise. What was read can be written again: the
record keeps its size and every byte but a flag that is neither 0 nor 1, which becomes a 1, and it
is read as the same config. And whatever the fields of a config are, it can be written, and it is
what is read from the written bytes. -/
theorem codec_laws (b : Bytes) :
    ((∃ c, decode b = .ok c) ↔ b.length = 100 ∧ b[0]? = some 1) ∧
    (∀ e, decode b = .error e ↔ b.length ≠ 100 ∧ e = .size b.length ∨
      ∃ tag, b.length = 100 ∧ b[0]? = some tag ∧ tag ≠ 1 ∧ e = .discriminator tag) ∧
    (∀ c, decode b = .ok c → ∃ record, c.toDraft.encode = .ok record ∧ record.length = 100 ∧
      record = normalize b ∧ decode record = .ok c ∧
      (record = b ↔
        ∀ op : Operation, b[op.flagOffset]? = some 0 ∨ b[op.flagOffset]? = some 1)) ∧
    ∀ c : MintConfig, ∃ record, c.toDraft.encode = .ok record ∧ decode record = .ok c := by
  have hwritten : ∀ c : MintConfig, decode c.encode = .ok c := by
    intro c
    exact decode_of_means (means_encode c)
  refine ⟨exists_decode_iff, fun e => decode_eq_error_iff, ?_, ?_⟩
  · intro c hc
    have hmeans := means_of_decode hc
    exact ⟨c.encode, toDraft_encode c, length_encode c, hmeans.encode_eq_normalize, hwritten c,
      hmeans.encode_eq_iff⟩
  · intro c
    exact ⟨c.encode, toDraft_encode c, hwritten c⟩

/-- A thaw flag of 7 is written again as 1. -/
theorem codec_laws_flag_seven :
    let record (thaw : UInt8) : Bytes := 1 :: (List.replicate 96 9 ++ [254, thaw, 0])
    ∃ c, decode (record 7) = .ok c ∧ c.toDraft.encode = .ok (record 1) ∧
      decode (record 1) = .ok c := by
  intro record
  obtain ⟨hread, -, hwrite, -⟩ := codec_laws (record 7)
  obtain ⟨c, hc⟩ := hread.2 ⟨rfl, rfl⟩
  obtain ⟨written, hencode, -, hnormal, hdecode, -⟩ := hwrite c hc
  obtain rfl : written = record 1 := hnormal
  exact ⟨c, hc, hencode, hdecode⟩

end MintConfig

end ExtraMetas

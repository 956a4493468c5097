import ExtraMetas.Proofs.Descriptor.Encoding
import ExtraMetas.Proofs.Descriptor.SeedPacking
import ExtraMetas.Proofs.Resolution.ErrorKinds

/-!
# ExtraMetas.Proofs.Descriptor.SeedGrammar

**Which configs hold seeds, and which.** A config is filled by seeds if they stand at its front as
they are written one by one, and then it ends or goes on with a zero tag (`Seed.FilledBy`). The
reader accepts exactly the configs that some seeds fill, as these seeds (`Seed.decodeAll_grammar`).

How the reader gets there is a walk by offsets (`Seed.Scan`): it stands at a tag, and either it is
done, or it refuses what begins there, or it goes on behind the seed that it read, which lies
inside the config. There are six refusals (`Seed.Refusal`), four of them for a seed whose bytes would
end behind the config.
-/

namespace ExtraMetas

open Layout

/-! ### Filled configs -/

/-- The bytes of the seed that a draft describes. -/
def Draft.packSeed (d : Draft) : Except EncodeError Bytes :=
  d.toSeed.map Seed.pack

/-- Drafts of seeds fill a config: each of them can be written, what is written stands at the front,
and behind it the config is at its end or has a zero tag. -/
def Seed.FilledBy (config : Bytes) (drafts : List Draft) : Prop :=
  ∃ parts, drafts.mapM Draft.packSeed = .ok parts ∧ parts.flatten.length ≤ 32 ∧
    parts.flatten <+: config ∧
    (parts.flatten.length = 32 ∨ config[parts.flatten.length]? = some 0)

/-- The same of seeds, which can always be written where there is room for them. -/
structure Seed.Fill (config : Bytes) (seeds : List Seed) : Prop where
  fits : (seeds.flatMap Seed.pack).length ≤ 32
  starts : seeds.flatMap Seed.pack <+: config
  ended : (seeds.flatMap Seed.pack).length = 32 ∨
    config[(seeds.flatMap Seed.pack).length]? = some 0

theorem Seed.decodeAll_eq_ok_iff_fill {config : Bytes} (hsize : config.length = 32)
    {seeds : List Seed} : Seed.decodeAll config = .ok seeds ↔ Seed.Fill config seeds := by
  have hwhole : Seed.decodeAll config = Seed.decodeFrom config := if_pos hsize
  rw [hwhole]
  constructor
  · intro h
    obtain ⟨rest, rfl, hrest⟩ := Seed.exists_rest_of_decodeFrom h
    rw [List.length_append] at hsize
    refine ⟨by omega, List.prefix_append _ _, ?_⟩
    rcases hrest with rfl | ⟨tail, rfl⟩
    · exact .inl hsize
    · exact .inr (by rw [List.getElem?_append_right (Nat.le_refl _), Nat.sub_self]; rfl)
  · rintro ⟨hfits, ⟨rest, rfl⟩, hended⟩
    refine Seed.decodeFrom_flatMap_pack hfits ?_
    rw [List.length_append] at hsize
    rcases hended with hfull | hzero
    · exact .inl (List.length_eq_zero_iff.1 (by omega))
    · rw [List.getElem?_append_right (Nat.le_refl _), Nat.sub_self] at hzero
      cases rest with
      | nil => cases hzero
      | cons x tail =>
          cases hzero
          exact .inr ⟨tail, rfl⟩

/-- Drafts that could be written one by one are those of seeds, and the bytes are theirs. -/
theorem Draft.exists_seeds_of_packSeed {drafts : List Draft} {parts : List Bytes}
    (h : drafts.mapM Draft.packSeed = .ok parts) :
    ∃ seeds : List Seed, drafts = seeds.map Seed.toDraft ∧ parts = seeds.map Seed.pack := by
  have hparts := Except.mapM_eq_ok_iff.1 h
  clear h
  induction hparts with
  | nil => exact ⟨[], rfl, rfl⟩
  | cons hd _ ih =>
      obtain ⟨seed, hseed, rfl⟩ := Except.map_eq_ok_iff.1 hd
      obtain ⟨seeds, rfl, rfl⟩ := ih
      exact ⟨seed :: seeds, by rw [List.map_cons, Draft.toDraft_of_toSeed hseed], rfl⟩

theorem Seed.mapM_packSeed {seeds : List Seed} (h : (seeds.flatMap Seed.pack).length ≤ configSize) :
    (seeds.map Seed.toDraft).mapM Draft.packSeed = .ok (seeds.map Seed.pack) := by
  rw [Except.mapM_eq_ok_iff, List.forall₂_map_left_iff, List.forall₂_map_right_iff,
    List.forall₂_same]
  intro seed hseed
  have hle := (List.sublist_flatten_of_mem (List.mem_map_of_mem (f := Seed.pack) hseed)).length_le
  rw [Draft.packSeed, Seed.toSeed_toDraft (Nat.le_trans hle h)]
  rfl

/-- The drafts that fill a config are those of the seeds that do. -/
theorem Seed.filledBy_iff {config : Bytes} {drafts : List Draft} :
    Seed.FilledBy config drafts ↔
      ∃ seeds : List Seed, Seed.Fill config seeds ∧ seeds.map Seed.toDraft = drafts := by
  constructor
  · rintro ⟨parts, hparts, hfits, hstarts, hended⟩
    obtain ⟨seeds, rfl, rfl⟩ := Draft.exists_seeds_of_packSeed hparts
    exact ⟨seeds, ⟨hfits, hstarts, hended⟩, rfl⟩
  · rintro ⟨seeds, ⟨hfits, hstarts, hended⟩, rfl⟩
    exact ⟨seeds.map Seed.pack, Seed.mapM_packSeed hfits, hfits, hstarts, hended⟩

/-- A config is read as the seeds that fill it, and is refused if there are none. -/
theorem Seed.decodeAll_eq_ok_iff_filledBy {config : Bytes} (hsize : config.length = 32)
    {drafts : List Draft} :
    (Seed.decodeAll config).map (List.map Seed.toDraft) = .ok drafts ↔
      Seed.FilledBy config drafts := by
  rw [Except.map_eq_ok_iff, Seed.filledBy_iff]
  simp only [Seed.decodeAll_eq_ok_iff_fill hsize]

/-! ### How many seeds, and how far they reach -/

theorem Seed.two_le_length_pack (seed : Seed) : 2 ≤ seed.pack.length := by
  cases seed with
  | literal value =>
      simp only [Seed.pack, List.length_cons]
      omega
  | instructionData index length => exact Nat.le_succ 2
  | accountKey index => exact Nat.le_refl 2
  | accountData account index length => exact Nat.le_add_right 2 2

theorem Seed.two_mul_length_le (seeds : List Seed) :
    2 * seeds.length ≤ (seeds.flatMap Seed.pack).length := by
  induction seeds with
  | nil => exact Nat.le_refl 0
  | cons seed seeds ih =>
      have hseed := seed.two_le_length_pack
      rw [List.flatMap_cons, List.length_append, List.length_cons]
      omega

/-- What fills a config fills every other one that is the same up to the zero tag. -/
theorem Seed.Fill.of_take_eq {config other : Bytes} {seeds : List Seed} (h : Seed.Fill config seeds)
    (htake : other.take ((seeds.flatMap Seed.pack).length + 1)
      = config.take ((seeds.flatMap Seed.pack).length + 1)) : Seed.Fill other seeds := by
  obtain ⟨hfits, hstarts, hended⟩ := h
  refine ⟨hfits, ?_, ?_⟩
  · have hfront := List.prefix_iff_eq_take.1 hstarts
    have htake' := congrArg (List.take (seeds.flatMap Seed.pack).length) htake
    rw [List.take_take, List.take_take, Nat.min_eq_left (Nat.le_succ _)] at htake'
    rw [List.prefix_iff_eq_take, htake']
    exact hfront
  · have hat := congrArg (·[(seeds.flatMap Seed.pack).length]?) htake
    simp only [List.getElem?_take_of_succ] at hat
    rw [hat]
    exact hended

/-! ### The walk through a config -/

/-- Why no seed begins at a tag, with the bytes that remain there. -/
inductive Seed.Refusal : Bytes → DecodeError → Prop
  | literalWithoutLength : Refusal [1] .literalWithoutLength
  | literalOverrun {length : UInt8} {rest : Bytes} (h : rest.length < length.toNat) :
      Refusal (1 :: length :: rest) (.literalOverrun length)
  | instructionDataOverrun {rest : Bytes} (h : rest.length < 2) :
      Refusal (2 :: rest) .instructionDataOverrun
  | accountKeyOverrun : Refusal [3] .accountKeyOverrun
  | accountDataOverrun {rest : Bytes} (h : rest.length < 3) :
      Refusal (4 :: rest) .accountDataOverrun
  | seedTag {tag : UInt8} {rest : Bytes} (h : 4 < tag.toNat) : Refusal (tag :: rest) (.seedTag tag)

/-- What a reader of a config comes to from an offset on. -/
inductive Seed.Scan (config : Bytes) : Nat → Except DecodeError (List Seed) → Prop
  /-- The config ends. -/
  | full : Scan config 32 (.ok [])
  /-- A zero tag ends the seeds. -/
  | zeroTag {offset : Nat} (htag : config[offset]? = some 0) : Scan config offset (.ok [])
  /-- What begins here is no seed that ends inside the config. -/
  | refused {offset : Nat} {e : DecodeError} (hinside : offset < 32)
      (hrefusal : Seed.Refusal (config.drop offset) e) : Scan config offset (.error e)
  /-- A seed lies between this offset and the next one, where the reader goes on. -/
  | read {offset next : Nat} {seed : Seed} {outcome : Except DecodeError (List Seed)}
      (hadvance : offset < next) (hinside : next ≤ 32)
      (hbytes : (config.take next).drop offset = seed.pack) (hrest : Scan config next outcome) :
      Scan config offset (outcome.map (seed :: ·))

theorem Seed.refusal_of_decodeNext {b : Bytes} {e : DecodeError}
    (h : Seed.decodeNext b = .error e) : Seed.Refusal b e := by
  unfold Seed.decodeNext at h
  split at h
  · cases h
  rename_i tag rest
  -- one split for each tag, in the order of the tags
  split at h
  · cases h
  rename_i hend
  split at h
  · rename_i hliteral
    rw [hliteral]
    cases rest with
    | nil =>
        cases h
        exact .literalWithoutLength
    | cons length rest =>
        dsimp only at h
        split at h
        · rename_i hover
          cases h
          exact .literalOverrun hover
        · cases h
  rename_i hliteral
  split at h
  · rename_i hinstruction
    rw [hinstruction]
    match rest with
    | [] | [_] =>
        cases h
        exact .instructionDataOverrun (by simp)
    | _ :: _ :: _ => cases h
  rename_i hinstruction
  split at h
  · rename_i hkey
    rw [hkey]
    cases rest with
    | nil =>
        cases h
        exact .accountKeyOverrun
    | cons index rest => cases h
  rename_i hkey
  split at h
  · rename_i hdata
    rw [hdata]
    match rest with
    | [] | [_] | [_, _] =>
        cases h
        exact .accountDataOverrun (by simp)
    | _ :: _ :: _ :: _ => cases h
  · rename_i hdata
    cases h
    refine .seedTag ?_
    simp only [seedEnd, literalSeed, instructionDataSeed, accountKeySeed, accountDataSeed,
      ← UInt8.toNat_inj, UInt8.reduceToNat] at hend hliteral hinstruction hkey hdata
    omega

/-- A seed that is read at an offset lies between it and where the reader goes on. -/
theorem Seed.read_of_decodeNext {config rest : Bytes} (hsize : config.length = 32) {offset : Nat}
    {seed : Seed} (h : Seed.decodeNext (config.drop offset) = .ok (some (seed, rest))) :
    offset < offset + seed.pack.length ∧ offset + seed.pack.length ≤ 32 ∧
      (config.take (offset + seed.pack.length)).drop offset = seed.pack ∧
      config.drop (offset + seed.pack.length) = rest := by
  have hbytes := Seed.eq_pack_append_of_decodeNext h
  have htwo := seed.two_le_length_pack
  have hlength := congrArg List.length hbytes
  rw [List.length_drop, List.length_append] at hlength
  refine ⟨by omega, by omega, ?_, ?_⟩
  · rw [List.drop_take, Nat.add_sub_cancel_left, hbytes, List.take_left]
  · rw [← List.drop_drop, hbytes, List.drop_left]

/-- From any offset inside a config, or at its end, the reader walks through the rest of it. -/
theorem Seed.scan_decodeFrom {config b : Bytes} (hsize : config.length = 32) {offset : Nat}
    (hoffset : offset ≤ 32) (hb : config.drop offset = b) :
    Seed.Scan config offset (Seed.decodeFrom b) := by
  fun_induction Seed.decodeFrom b generalizing offset with
  | case1 b e hnext =>
      have hrefusal := Seed.refusal_of_decodeNext hnext
      rw [← hb] at hrefusal
      refine .refused (Nat.lt_of_le_of_ne hoffset ?_) hrefusal
      -- at the end there is nothing left that could be refused
      rintro rfl
      rw [List.drop_of_length_le (Nat.le_of_eq hsize)] at hrefusal
      cases hrefusal
  | case2 b hnext =>
      rcases Seed.endsAt_of_decodeNext hnext with rfl | ⟨tail, rfl⟩
      · have hend := List.drop_eq_nil_iff.1 hb
        obtain rfl : offset = 32 := by omega
        exact .full
      · have htag := congrArg (·[0]?) hb
        rw [List.getElem?_drop] at htag
        exact .zeroTag htag
  | case3 b seed rest hnext e hrest ih =>
      rw [← hb] at hnext
      obtain ⟨hadvance, hinside, hbytes, hdrop⟩ := Seed.read_of_decodeNext hsize hnext
      have hlater := ih hinside hdrop
      rw [hrest] at hlater
      exact .read hadvance hinside hbytes hlater
  | case4 b seed rest hnext seeds hrest ih =>
      rw [← hb] at hnext
      obtain ⟨hadvance, hinside, hbytes, hdrop⟩ := Seed.read_of_decodeNext hsize hnext
      have hlater := ih hinside hdrop
      rw [hrest] at hlater
      exact .read hadvance hinside hbytes hlater

/-- **Seeds are read from exactly the configs that they fill.** A config is read as the one list of
seeds that fills it, and refused for a violation of the layout if there is none. The reader walks
through it from its first byte, always forward and never behind its last one; it finds sixteen seeds
at most, and what stands behind the zero tag that ends them does not matter. -/
theorem Seed.decodeAll_grammar {config : Bytes} (hsize : config.length = 32) :
    (∀ drafts, (Seed.decodeAll config).map (List.map Seed.toDraft) = .ok drafts ↔
        Seed.FilledBy config drafts) ∧
      (∀ drafts drafts', Seed.FilledBy config drafts → Seed.FilledBy config drafts' →
        drafts = drafts') ∧
      ((¬ ∃ drafts, Seed.FilledBy config drafts) →
        ∃ e, Seed.decodeAll config = .error e ∧ e.isViolation = true) ∧
      Seed.Scan config 0 (Seed.decodeAll config) ∧
      ∀ seeds, Seed.decodeAll config = .ok seeds → seeds.length ≤ 16 ∧
        ∀ other : Bytes, other.length = 32 →
          other.take ((seeds.flatMap Seed.pack).length + 1)
            = config.take ((seeds.flatMap Seed.pack).length + 1) →
          Seed.decodeAll other = .ok seeds := by
  have hgrammar : ∀ drafts, (Seed.decodeAll config).map (List.map Seed.toDraft) = .ok drafts ↔
      Seed.FilledBy config drafts := fun _ => Seed.decodeAll_eq_ok_iff_filledBy hsize
  refine ⟨hgrammar, ?_, ?_, ?_, ?_⟩
  · intro drafts drafts' h h'
    rw [← hgrammar] at h h'
    exact Except.ok.inj (h.symm.trans h')
  · intro hnone
    cases h : Seed.decodeAll config with
    | error e => exact ⟨e, rfl, Seed.isViolation_of_decodeAll h⟩
    | ok seeds => exact absurd ⟨_, (hgrammar _).1 (by rw [h]; rfl)⟩ hnone
  · have hwhole : Seed.decodeAll config = Seed.decodeFrom config := if_pos hsize
    rw [hwhole]
    exact Seed.scan_decodeFrom hsize (Nat.zero_le 32) rfl
  · intro seeds h
    have hfill := (Seed.decodeAll_eq_ok_iff_fill hsize).1 h
    have htwo := Seed.two_mul_length_le seeds
    have hfits := hfill.fits
    refine ⟨by omega, fun other hother htake => ?_⟩
    exact (Seed.decodeAll_eq_ok_iff_fill hother).2 (hfill.of_take_eq htake)

/-- A config that sixteen seeds fill to its last byte, although every other byte is zero, and one that
a zero tag ends behind a literal seed which holds a zero and a tag. -/
theorem Seed.decodeAll_grammar_full :
    let full : Bytes := (List.replicate 16 [3, 0]).flatten
    let keys : List Draft := List.replicate 16 (.accountKey (.int 0))
    let ended (unused : UInt8) : Bytes := [1, 2, 0, 4, 0] ++ List.replicate 27 unused
    full.length = 32 ∧ Seed.FilledBy full keys ∧
      (Seed.decodeAll full).map (List.map Seed.toDraft) = .ok keys ∧
      (ended 9).length = 32 ∧ Seed.decodeAll (ended 9) = .ok [.literal [0, 4]] ∧
      Seed.decodeAll (ended 1) = .ok [.literal [0, 4]] := by
  intro full keys ended
  have hfull : full.length = 32 := rfl
  have hended : (ended 9).length = 32 := rfl
  have hkeys : Seed.FilledBy full keys :=
    ⟨List.replicate 16 [3, 0], rfl, Nat.le_refl 32, List.prefix_refl _, .inl rfl⟩
  have hliteral : Seed.decodeAll (ended 9) = .ok [.literal [0, 4]] := by
    decide +kernel
  obtain ⟨hgrammar, -⟩ := Seed.decodeAll_grammar hfull
  obtain ⟨-, -, -, -, hread⟩ := Seed.decodeAll_grammar hended
  obtain ⟨-, hunused⟩ := hread _ hliteral
  exact ⟨hfull, hkeys, (hgrammar keys).2 hkeys, hended, hliteral, hunused (ended 1) rfl rfl⟩

end ExtraMetas

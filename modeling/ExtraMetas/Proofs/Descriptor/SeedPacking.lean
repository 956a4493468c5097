import ExtraMetas.Descriptor.Decode
import ExtraMetas.Descriptor.Encode

/-!
# ExtraMetas.Proofs.Descriptor.SeedPacking

Reading an **address config** undoes writing it. Seeds stand back to back without any separator, so
the statements are about a seed in front of *any* bytes: what follows a seed never changes how it
is read (`decodeNext_pack`). The seeds end at a zero tag or with the last of the 32 bytes
(`Seed.EndsAt`), and zeros of any number, none included, are such an end.

The other way round, a config that was read begins with its seeds as they are written, and either
ends there or goes on with a zero tag (`exists_rest_of_decodeFrom`).
-/

namespace ExtraMetas

open Layout

/-! ### One seed -/

theorem Seed.decodeNext_literal {value : Bytes} (hsize : value.length < 256) (rest : Bytes) :
    Seed.decodeNext ((Seed.literal value).pack ++ rest) = .ok (some (.literal value, rest)) := by
  have hlen : (UInt8.ofNat value.length).toNat = value.length := by
    simp only [UInt8.toNat_ofNat']
    omega
  have hfit : ¬ value.length + rest.length < value.length := by omega
  simp [Seed.pack, Seed.decodeNext, literalSeed, seedEnd, hlen, hfit]

/-- The first seed of a config is read as it was written, whatever the bytes after it are. Only a
literal too long for its length byte would be misread. -/
theorem Seed.decodeNext_pack {seed : Seed} (hsize : seed.pack.length ≤ configSize)
    (rest : Bytes) : Seed.decodeNext (seed.pack ++ rest) = .ok (some (seed, rest)) := by
  cases seed with
  | literal value =>
      refine Seed.decodeNext_literal ?_ rest
      simp only [Seed.pack, List.length_cons, configSize] at hsize
      omega
  | instructionData index length => rfl
  | accountKey index => rfl
  | accountData account index length => rfl

/-! ### Seeds back to back -/

/-- Where seeds end: at the end of the config, or at a zero tag. -/
def Seed.EndsAt (rest : Bytes) : Prop :=
  rest = [] ∨ ∃ tail, rest = 0 :: tail

theorem Seed.endsAt_replicate_zero (n : Nat) : Seed.EndsAt (List.replicate n 0) := by
  cases n with
  | zero => exact .inl rfl
  | succ n => exact .inr ⟨List.replicate n 0, rfl⟩

theorem Seed.decodeFrom_of_endsAt {rest : Bytes} (h : Seed.EndsAt rest) :
    Seed.decodeFrom rest = .ok [] := by
  rw [Seed.decodeFrom]
  rcases h with rfl | ⟨tail, rfl⟩
  · rfl
  · rfl

theorem Seed.decodeFrom_pack {seed : Seed} (hsize : seed.pack.length ≤ configSize) {rest : Bytes}
    {seeds : List Seed} (hrest : Seed.decodeFrom rest = .ok seeds) :
    Seed.decodeFrom (seed.pack ++ rest) = .ok (seed :: seeds) := by
  have hnext := Seed.decodeNext_pack hsize rest
  rw [Seed.decodeFrom]
  -- of the three outcomes of a read, `hnext` leaves the one with a seed
  split
  · simp_all
  · simp_all
  · rename_i h
    rw [hnext] at h
    cases h
    rw [hrest]

/-- Packed seeds in front of an end are read back: the induction takes one seed off the front, and
the end stops it. -/
theorem Seed.decodeFrom_flatMap_pack {seeds : List Seed}
    (hsize : (seeds.flatMap Seed.pack).length ≤ configSize) {rest : Bytes}
    (hrest : Seed.EndsAt rest) :
    Seed.decodeFrom (seeds.flatMap Seed.pack ++ rest) = .ok seeds := by
  induction seeds with
  | nil => exact Seed.decodeFrom_of_endsAt hrest
  | cons seed seeds ih =>
      rw [List.flatMap_cons, List.length_append] at hsize
      have hseed : seed.pack.length ≤ configSize := by omega
      have hseeds : (seeds.flatMap Seed.pack).length ≤ configSize := by omega
      rw [List.flatMap_cons, List.append_assoc]
      exact Seed.decodeFrom_pack hseed (ih hseeds)

/-! ### What was read -/

/-- What a read takes off the front are the bytes of the seed that it gives. -/
theorem Seed.eq_pack_append_of_decodeNext {b rest : Bytes} {seed : Seed}
    (h : Seed.decodeNext b = .ok (some (seed, rest))) : b = seed.pack ++ rest := by
  unfold Seed.decodeNext at h
  repeat' split at h
  all_goals cases h
  · rename_i htag _ length rest hfit
    have hlen : (rest.take length.toNat).length = length.toNat := by
      rw [List.length_take]
      omega
    simp only [Seed.pack, htag, hlen, UInt8.ofNat_toNat, List.cons_append, List.take_append_drop]
  · simp [Seed.pack, *]
  · simp [Seed.pack, *]
  · simp [Seed.pack, *]

/-- No seed is read at the end of a config, and at a zero tag. -/
theorem Seed.endsAt_of_decodeNext {b : Bytes} (h : Seed.decodeNext b = .ok none) :
    Seed.EndsAt b := by
  unfold Seed.decodeNext at h
  repeat' split at h
  all_goals cases h
  · exact Or.inl rfl
  · rename_i tag rest htag
    exact Or.inr ⟨rest, by rw [htag]; rfl⟩

/-- The seeds that were read stand at the front, and behind them the config ends. -/
theorem Seed.exists_rest_of_decodeFrom {b : Bytes} {seeds : List Seed}
    (h : Seed.decodeFrom b = .ok seeds) :
    ∃ rest, b = seeds.flatMap Seed.pack ++ rest ∧ Seed.EndsAt rest := by
  fun_induction Seed.decodeFrom b generalizing seeds with
  | case1 b e hnext => cases h
  | case2 b hnext =>
      cases h
      exact ⟨b, rfl, Seed.endsAt_of_decodeNext hnext⟩
  | case3 b seed rest hnext e hrest ih => cases h
  | case4 b seed rest hnext seeds' hrest ih =>
      cases h
      obtain ⟨tail, htail, hended⟩ := ih hrest
      refine ⟨tail, ?_, hended⟩
      rw [Seed.eq_pack_append_of_decodeNext hnext, List.flatMap_cons, List.append_assoc, ← htail]

/-! ### Whole configs -/

theorem length_padConfig {b : Bytes} (h : b.length ≤ configSize) :
    (padConfig b).length = configSize := by
  rw [padConfig, List.length_append, List.length_replicate]
  omega

theorem Seed.decodeAll_packAll {seeds : List Seed}
    (hsize : (seeds.flatMap Seed.pack).length ≤ configSize) :
    Seed.decodeAll (Seed.packAll seeds) = .ok seeds := by
  have hlen : (Seed.packAll seeds).length = configSize := length_padConfig hsize
  rw [Seed.decodeAll, if_pos hlen]
  exact Seed.decodeFrom_flatMap_pack hsize (Seed.endsAt_replicate_zero _)

theorem KeySource.decode_pack (source : KeySource) : KeySource.decode source.pack = .ok source := by
  cases source with
  | instructionData index => rfl
  | accountData account index => rfl

theorem KeySource.length_pack (source : KeySource) : source.pack.length = configSize := by
  cases source with
  | instructionData index => rfl
  | accountData account index => rfl

end ExtraMetas

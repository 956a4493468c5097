import ExtraMetas.Resolution.Entry
import ExtraMetas.Proofs.Outcome
import ExtraMetas.Proofs.Runs

/-!
# ExtraMetas.Proofs.Resolution.Parts

What the parts of a resolution come to when their indices and lengths are **bytes**, as they are in
everything that was decoded. A draft may hold any value there, and most of the resolver's refusals
are about such values; for a byte only one refusal is left, that of what lies outside
(`range_ofNat`, `Known.key_ofNat`).
-/

namespace ExtraMetas

/-! ### Ranges -/

/-- A byte can be written down. -/
theorem byte_le (i : UInt8) : i.toNat ≤ 1000000000 := by
  have hi := i.toNat_lt
  omega

/-- The end of a range of bytes can be written down. -/
theorem byte_add_byte_le (i n : UInt8) : i.toNat + n.toNat ≤ 1000000000 := by
  have hi := i.toNat_lt
  have hn := n.toNat_lt
  omega

/-- The end of a key from a byte on can be written down. -/
theorem byte_add_size_le (i : UInt8) : i.toNat + Pubkey.size ≤ 1000000000 := by
  have hi := i.toNat_lt
  rw [Pubkey.size]
  omega

theorem Bytes.window?_ofNat (b : Bytes) (i n : Nat) :
    b.window? i n = if i + n ≤ b.length then some ((b.drop i).take n) else none := by
  have hcast : (i : Int) + n = ((i + n : Nat) : Int) := by omega
  rw [Bytes.window?, hcast]
  by_cases h : i + n ≤ b.length
  · rw [if_neg (by omega), if_pos h, Bytes.slice_eq_take_drop b (by omega) h, List.drop_take,
      Nat.add_sub_cancel_left]
  · rw [if_pos (by omega), if_neg h]

/-- A range with bounds of a size that can be written down is either inside, and then exactly its
bytes, or refused with `bounds`. -/
theorem range_ofNat (b : Bytes) {i n : Nat} (h : i + n ≤ 1000000000)
    (bounds : Value → ResolveError) :
    range b (.int i) (.int n) bounds
      = if i + n ≤ b.length then .ok ((b.drop i).take n)
        else .error (bounds (.int (i + n : Nat))) := by
  have hwritable : (Value.int (i + n : Nat)).isWritable = true :=
    Value.isWritable_int (by omega)
  have hcast : (i : Int) + n = ((i + n : Nat) : Int) := by omega
  rw [range, Value.add_int, hcast, Value.integer?_int, Value.integer?_int]
  dsimp only
  rw [Bytes.window?_ofNat]
  by_cases hfit : i + n ≤ b.length
  · rw [if_pos hfit, if_pos hfit]
  · rw [if_neg hfit, if_neg hfit]
    dsimp only
    rw [beyond, if_pos hwritable]

theorem length_of_range {b part : Bytes} {i n : Nat} (h : i + n ≤ 1000000000)
    {bounds : Value → ResolveError} (hpart : range b (.int i) (.int n) bounds = .ok part) :
    part.length = n := by
  rw [range_ofNat b h] at hpart
  split at hpart
  · rename_i hfit
    cases hpart
    rw [List.length_take, List.length_drop]
    omega
  · cases hpart

/-- Only a byte string of the length of a key is turned into one. -/
theorem Pubkey.exists_ofBytes? {b : Bytes} (h : b.length = 32) :
    ∃ key, Pubkey.ofBytes? b = some key := by
  rw [Pubkey.ofBytes?, dif_pos h]
  exact ⟨_, rfl⟩

/-! ### Known accounts -/

theorem Known.key_eq_ok_iff {k : Known Meta} {i : Nat} {address : Pubkey} :
    k.key (.int i) = .ok address ↔ ∃ m, k.toList[i]? = some m ∧ m.address = address := by
  rw [Known.key, Except.map_eq_ok_iff]
  simp only [Known.get_ofNat]

/-- An index of a size that can be written down names a known account, or is refused as such. -/
theorem Known.key_ofNat (k : Known Meta) {i : Nat} (h : i ≤ 1000000000) :
    k.key (.int i) = match k.toList[i]? with
      | some m => .ok m.address
      | none => .error (.unresolved (.int i) k.size) := by
  have hi : ¬ (i : Int) < 0 := by omega
  have hwritable : (Value.int i).isWritable = true := Value.isWritable_int (by omega)
  rw [Known.key, Known.get, Value.integer?_int]
  dsimp only
  rw [if_neg hi, Int.toNat_natCast, Known.outside, if_pos hwritable]
  cases k.toList[i]? with
  | none => rfl
  | some m => rfl

theorem Known.key_of_le {k : Known Meta} {i : Nat} (h : k.size ≤ i) (hi : i ≤ 1000000000) :
    k.key (.int i) = .error (.unresolved (.int i) k.size) := by
  rw [Known.key_ofNat k hi, List.getElem?_eq_none h]

/-! ### Whole resolutions -/

/-- A resolution from its first step, with an empty cache in front of a port. -/
def Port.resolution (port : Port) (descriptor : Pubkey) (request : Request) :
    Except ResolveError (List Meta) × Session :=
  (resolveExtraMetas (.cachedOver (.ask port)) descriptor request).execute .empty

end ExtraMetas

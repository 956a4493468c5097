import ExtraMetas.Text.Base58

/-!
# ExtraMetas.Pubkey

**Public keys**: the addresses of accounts and programs. A key is any 32 bytes; its length is part
of the type, so a key taken from account data exists only once that data was found to be of the
right length (`ofBytes?_eq_some_iff`).
-/

namespace ExtraMetas

/-- A public key. -/
structure Pubkey where
  bytes : Bytes
  size_eq : bytes.length = 32
deriving DecidableEq

namespace Pubkey

/-- The number of bytes of a key. -/
def size : Nat := 32

/-- The key of 32 zero bytes, which stands for "none". -/
def zero : Pubkey :=
  ⟨List.replicate 32 0, by simp⟩

instance : Inhabited Pubkey := ⟨zero⟩

theorem eq_of_bytes_eq {k k' : Pubkey} (h : k.bytes = k'.bytes) : k = k' := by
  cases k
  cases k'
  cases h
  rfl

/-- The key that `b` is, if it has the length of one. -/
def ofBytes? (b : Bytes) : Option Pubkey :=
  if h : b.length = 32 then some ⟨b, h⟩ else none

theorem ofBytes?_eq_some_iff {b : Bytes} {k : Pubkey} : ofBytes? b = some k ↔ k.bytes = b := by
  unfold ofBytes?
  split
  · constructor
    · rintro ⟨⟩; rfl
    · rintro rfl; rfl
  · rename_i h
    simp only [reduceCtorEq, false_iff]
    rintro rfl
    exact h k.size_eq

@[simp] theorem ofBytes?_bytes (k : Pubkey) : ofBytes? k.bytes = some k :=
  ofBytes?_eq_some_iff.2 rfl

/-- The text of a key in messages. -/
def text (k : Pubkey) : String :=
  Text.Base58.encode k.bytes

end Pubkey

end ExtraMetas

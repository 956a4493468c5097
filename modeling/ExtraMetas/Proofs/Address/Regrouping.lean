import ExtraMetas.Proofs.Address.Search

/-!
# ExtraMetas.Proofs.Address.Regrouping

**Where one seed ends and the next begins does not enter a derivation, and everything else does**
(`derivation_regrouping`), for every hash and every curve test.

The string that is hashed ends in three parts of known length: the bump, the program and the marker.
They come off its end one after the other, and what is left are the seeds put together
(`preimage_eq_iff`). Some hash tells any two strings apart, so nothing of a string is lost in its
candidates (`forall_candidate_eq_iff`). Seeds that are the same when put together have one candidate
for each bump, and two searches with them branch alike at every bump (`searchAmong_of_flatten_eq`).
-/

namespace ExtraMetas.Address

variable {scheme : Scheme} {seeds seeds' : List Bytes} {program program' : Pubkey}
  {bump bump' : UInt8}

/-! ### What is hashed -/

theorem preimage_eq_iff :
    preimage seeds program = preimage seeds' program' ↔
      seeds.flatten = seeds'.flatten ∧ program = program' := by
  constructor
  · intro h
    have hfront : seeds.flatten ++ program.bytes = seeds'.flatten ++ program'.bytes :=
      List.append_cancel_right h
    -- nothing is known of the seeds' sizes, so the program is taken off from the end
    have hsize : program.bytes.length = program'.bytes.length := by
      rw [program.size_eq, program'.size_eq]
    obtain ⟨hseeds, hprogram⟩ := List.append_inj' hfront hsize
    exact ⟨hseeds, Pubkey.eq_of_bytes_eq hprogram⟩
  · rintro ⟨hseeds, rfl⟩
    rw [preimage, preimage, hseeds]

theorem flatten_append_bump_eq_iff :
    (seeds ++ [[bump]]).flatten = (seeds' ++ [[bump']]).flatten ↔
      seeds.flatten = seeds'.flatten ∧ bump = bump' := by
  simp

theorem candidate_of_flatten_eq (h : seeds.flatten = seeds'.flatten) :
    candidate scheme seeds program = candidate scheme seeds' program :=
  congrArg scheme.digest (preimage_eq_iff.2 ⟨h, rfl⟩)

/-- A hash that tells one string from all others. -/
def Scheme.telling (b : Bytes) : Scheme where
  digest c := if c = b then .zero else ⟨List.replicate 32 1, List.length_replicate⟩
  onCurve _ := false

/-- Candidates that no hash tells apart are hashed from one string. -/
theorem forall_candidate_eq_iff :
    (∀ scheme, candidate scheme seeds program = candidate scheme seeds' program') ↔
      preimage seeds program = preimage seeds' program' := by
  constructor
  · intro h
    by_contra hne
    have htold := congrArg Pubkey.bytes (h (.telling (preimage seeds' program')))
    simp only [candidate, Scheme.telling, if_neg hne, if_true] at htold
    exact absurd htold (by decide)
  · intro h scheme
    rw [candidate, candidate, h]

/-! ### The search -/

theorem searchAmong_of_flatten_eq (h : seeds.flatten = seeds'.flatten) (tries : List UInt8) :
    searchAmong scheme seeds program tries = searchAmong scheme seeds' program tries := by
  induction tries with
  | nil => rfl
  | cons bump rest ih =>
      have hbump : (seeds ++ [[bump]]).flatten = (seeds' ++ [[bump]]).flatten :=
        flatten_append_bump_eq_iff.2 ⟨h, rfl⟩
      rw [searchAmong, searchAmong, candidate_of_flatten_eq hbump, ih]

theorem tested_of_flatten_eq (h : seeds.flatten = seeds'.flatten) (hseeds : Searchable seeds)
    (hseeds' : Searchable seeds') :
    tested scheme seeds program = tested scheme seeds' program := by
  rw [tested, tested, search_of_searchable hseeds, search_of_searchable hseeds',
    searchAmong_of_flatten_eq h]

/-- The two searches end alike. An exhausted one says how many seeds it was given. -/
theorem find_of_flatten_eq (h : seeds.flatten = seeds'.flatten) (hseeds : Searchable seeds)
    (hseeds' : Searchable seeds') :
    (∃ hit, find scheme seeds program = .ok hit ∧ find scheme seeds' program = .ok hit) ∨
      find scheme seeds program = .error (.exhausted seeds.length program) ∧
        find scheme seeds' program = .error (.exhausted seeds'.length program) := by
  rw [find_of_searchable hseeds, find_of_searchable hseeds', searchAmong_of_flatten_eq h]
  cases (searchAmong scheme seeds' program bumps).found with
  | some hit => exact .inl ⟨hit, rfl, rfl⟩
  | none => exact .inr ⟨rfl, rfl⟩

theorem create_of_flatten_eq (h : seeds.flatten = seeds'.flatten) (hseeds : WithinLimits seeds)
    (hseeds' : WithinLimits seeds') :
    create scheme seeds program = create scheme seeds' program := by
  rw [create, create, checkSeeds_of_withinLimits hseeds, checkSeeds_of_withinLimits hseeds',
    candidate_of_flatten_eq h]

/-- **Seed boundaries do not enter, everything else does.** Two candidates are hashed from one
string, and so are the same under every hash, iff their seeds put together, their bumps and their
programs are the same. Seeds that are the same when put together lead to one address, with one bump
after the same tries, or to none, as long as both keep the limits. -/
theorem derivation_regrouping (scheme : Scheme) (seeds seeds' : List Bytes)
    (program program' : Pubkey) (bump bump' : UInt8) :
    (preimage (seeds ++ [[bump]]) program = preimage (seeds' ++ [[bump']]) program' ↔
        seeds.flatten = seeds'.flatten ∧ bump = bump' ∧ program = program') ∧
      ((∀ other, candidate other (seeds ++ [[bump]]) program =
          candidate other (seeds' ++ [[bump']]) program') ↔
        seeds.flatten = seeds'.flatten ∧ bump = bump' ∧ program = program') ∧
      (seeds.flatten = seeds'.flatten → Searchable seeds → Searchable seeds' →
        tested scheme seeds program = tested scheme seeds' program ∧
          ((∃ hit, find scheme seeds program = .ok hit ∧ find scheme seeds' program = .ok hit) ∨
            find scheme seeds program = .error (.exhausted seeds.length program) ∧
              find scheme seeds' program = .error (.exhausted seeds'.length program))) ∧
      (seeds.flatten = seeds'.flatten → WithinLimits seeds → WithinLimits seeds' →
        create scheme seeds program = create scheme seeds' program) := by
  have hpreimage : preimage (seeds ++ [[bump]]) program = preimage (seeds' ++ [[bump']]) program' ↔
      seeds.flatten = seeds'.flatten ∧ bump = bump' ∧ program = program' := by
    rw [preimage_eq_iff, flatten_append_bump_eq_iff, and_assoc]
  refine ⟨hpreimage, forall_candidate_eq_iff.trans hpreimage, ?_, create_of_flatten_eq⟩
  intro h hseeds hseeds'
  exact ⟨tested_of_flatten_eq h hseeds hseeds', find_of_flatten_eq h hseeds hseeds'⟩

/-- As many seeds as a derivation takes lead to the address of one seed that holds all their bytes.
The same bytes with another bump are another string. -/
theorem derivation_regrouping_many_seeds :
    let pairs (count : Nat) : List Bytes := List.replicate count [7, 7]
    let whole (size : Nat) : List Bytes := [[], List.replicate size 7]
    (create .standard (pairs 16) .zero = create .standard (whole 32) .zero) ∧
      tested .standard (pairs 15) .zero = tested .standard (whole 30) .zero ∧
      preimage (pairs 15 ++ [[9]]) .zero = preimage (whole 30 ++ [[9]]) .zero ∧
      preimage (pairs 15 ++ [[9]]) .zero ≠ preimage (whole 30 ++ [[8]]) .zero := by
  intro pairs whole
  have hwithin : WithinLimits (pairs 16) ∧ WithinLimits (whole 32) :=
    ⟨⟨by decide, by decide⟩, ⟨by decide, by decide⟩⟩
  have hsearchable : Searchable (pairs 15) ∧ Searchable (whole 30) :=
    ⟨⟨by decide, by decide⟩, ⟨by decide, by decide⟩⟩
  obtain ⟨-, -, -, hcreate⟩ := derivation_regrouping .standard (pairs 16) (whole 32) .zero .zero 9 9
  obtain ⟨hsame, -, hsearch, -⟩ :=
    derivation_regrouping .standard (pairs 15) (whole 30) .zero .zero 9 9
  obtain ⟨hother, -⟩ := derivation_regrouping .standard (pairs 15) (whole 30) .zero .zero 9 8
  refine ⟨hcreate rfl hwithin.1 hwithin.2, ?_, hsame.2 ⟨rfl, rfl, rfl⟩, ?_⟩
  · exact (hsearch rfl hsearchable.1 hsearchable.2).1
  · intro h
    exact absurd (hother.1 h).2.1 (by decide)

end ExtraMetas.Address

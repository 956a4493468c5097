import ExtraMetas.Proofs.Resolution.Causality

/-!
# ExtraMetas.Proofs.Resolution.InstructionData

**Of the instruction data only the bytes that the entries name matter.** A resolution that gives a
list gives the same list, with the same fetches and reports, for every other instruction data that
has the same bytes in the ranges that the decoded entries name, and reaches to their ends
(`resolveExtraMetas_instructionData`). A descriptor that names no such range resolves alike for all
instruction data, failures included.

Two resolutions are compared that look accounts up in the same way. They take the same steps until
the first of them meets a range that its data does not reach, and then that one fails
(`Run.SameUnless`); so the walk through the resolver needs nothing but the ranges.
-/

namespace ExtraMetas

/-! ### What the entries name -/

/-- The range of the instruction data that a seed names: its start and its length. -/
def Seed.instructionRange? : Seed → Option (Nat × Nat)
  | instructionData index length => some (index.toNat, length.toNat)
  | _ => none

/-- The range of the instruction data that a key source names. -/
def KeySource.instructionRange? : KeySource → Option (Nat × Nat)
  | instructionData index => some (index.toNat, 32)
  | accountData _ _ => none

/-- The ranges of the instruction data that an address is made from. -/
def AddressConfig.instructionRanges : AddressConfig → List (Nat × Nat)
  | ownSeeds seeds | externalSeeds _ seeds => seeds.filterMap Seed.instructionRange?
  | keyData source => source.instructionRange?.toList
  | literal _ => []

/-- The ranges of the instruction data that the entries of a descriptor name; none, if there are no
entries to be read. -/
def Port.instructionRanges (port : Port) (descriptor : Pubkey) (accepted : Option (List Bytes)) :
    List (Nat × Nat) :=
  match (port []).account descriptor with
  | .error _ => []
  | .ok account =>
    match account.entries accepted with
    | .error _ => []
    | .ok entries => entries.flatMap fun entry => entry.address.instructionRanges

/-- The second string reaches to the end of a range, and has the bytes of the first one there. -/
def Bytes.AgreeOn (d₁ d₂ : Bytes) (range : Nat × Nat) : Prop :=
  range.1 + range.2 ≤ d₂.length ∧
    ∀ place, range.1 ≤ place → place < range.1 + range.2 → d₁[place]? = d₂[place]?

theorem Bytes.AgreeOn.take_drop {d₁ d₂ : Bytes} {i n : Nat} (h : d₁.AgreeOn d₂ (i, n)) :
    (d₁.drop i).take n = (d₂.drop i).take n := by
  refine List.ext_getElem? fun k => ?_
  rw [List.getElem?_take, List.getElem?_take]
  split
  · rw [List.getElem?_drop, List.getElem?_drop]
    exact h.2 (i + k) (by omega) (by omega)
  · rfl

/-! ### The walk through a resolution -/

section Walk

variable {lookup : Lookup} {known : Known Meta} {d₁ d₂ : Bytes} {F : Prop} {s : Session}

theorem Scope.sameUnless_instructionRange {i n : Nat} (hsize : i + n ≤ 1000000000)
    (h : F ∧ d₁.AgreeOn d₂ (i, n)) :
    Run.SameUnless F (Scope.instructionRange ⟨known, d₁⟩ (.int i) (.int n))
      (Scope.instructionRange ⟨known, d₂⟩ (.int i) (.int n)) s := by
  obtain ⟨hF, hagree⟩ := h
  rw [Scope.instructionRange, Scope.instructionRange, range_ofNat d₁ hsize, range_ofNat d₂ hsize,
    if_pos hagree.1]
  by_cases hfit : i + n ≤ d₁.length
  · rw [if_pos hfit, hagree.take_drop]
    exact .refl
  · rw [if_neg hfit]
    exact .inr ⟨hF, _, _, rfl⟩

theorem Seed.sameUnless {seed : Seed}
    (h : ∀ range ∈ seed.instructionRange?, F ∧ d₁.AgreeOn d₂ range) :
    Run.SameUnless F (seed.toDraft.resolveSeed lookup ⟨known, d₁⟩)
      (seed.toDraft.resolveSeed lookup ⟨known, d₂⟩) s := by
  cases seed with
  | instructionData index length =>
      exact Scope.sameUnless_instructionRange (byte_add_byte_le index length) (h _ rfl)
  | literal value => exact .refl
  | accountKey index => exact .refl
  | accountData account index length => exact .refl

theorem sameUnless_resolveSeeds {seeds : List Seed}
    (h : ∀ range ∈ seeds.filterMap Seed.instructionRange?, F ∧ d₁.AgreeOn d₂ range) :
    Run.SameUnless F (Draft.resolveSeeds lookup ⟨known, d₁⟩ (seeds.map Seed.toDraft))
      (Draft.resolveSeeds lookup ⟨known, d₂⟩ (seeds.map Seed.toDraft)) s := by
  refine Run.SameUnless.mapM (fun d hd s => ?_) s
  obtain ⟨seed, hseed, rfl⟩ := List.mem_map.1 hd
  exact Seed.sameUnless fun range hrange => h range (List.mem_filterMap.2 ⟨seed, hseed, hrange⟩)

theorem KeySource.sameUnless {source : KeySource}
    (h : ∀ range ∈ source.instructionRange?.toList, F ∧ d₁.AgreeOn d₂ range) :
    Run.SameUnless F (source.toDraft.resolveKeySource lookup ⟨known, d₁⟩)
      (source.toDraft.resolveKeySource lookup ⟨known, d₂⟩) s := by
  cases source with
  | instructionData index =>
      have hrange : Run.SameUnless F
          (Scope.instructionRange ⟨known, d₁⟩ (.ofByte index) (.int Pubkey.size))
          (Scope.instructionRange ⟨known, d₂⟩ (.ofByte index) (.int Pubkey.size)) s :=
        Scope.sameUnless_instructionRange (byte_add_size_le index)
          (h _ (List.mem_singleton_self _))
      exact hrange.bind fun _ _ _ => .refl
  | accountData account index => exact .refl

theorem Entry.sameUnless {entry : Entry} {program : Pubkey}
    (h : ∀ range ∈ entry.address.instructionRanges, F ∧ d₁.AgreeOn d₂ range) :
    Run.SameUnless F (entry.toDraft.resolveEntry lookup ⟨known, d₁⟩ program)
      (entry.toDraft.resolveEntry lookup ⟨known, d₂⟩ program) s := by
  obtain ⟨address, signer, writable⟩ := entry
  cases address with
  | literal address => exact .refl
  | ownSeeds seeds => exact (sameUnless_resolveSeeds h).bind fun _ _ _ => .refl
  | externalSeeds index seeds =>
      have howner : Run.SameUnless F (Scope.key ⟨known, d₁⟩ (.int index.val))
        (Scope.key ⟨known, d₂⟩ (.int index.val)) s := .refl
      exact howner.bind fun _ _ _ => (sameUnless_resolveSeeds h).bind fun _ _ _ => .refl
  | keyData source => exact (KeySource.sameUnless h).bind fun _ _ _ => .refl

/-- Entries resolve to the same accounts one by one, so the later ones see the same. -/
theorem sameUnless_resolveEntries {entries : List Entry} {program : Pubkey}
    (h : ∀ range ∈ entries.flatMap fun entry => entry.address.instructionRanges,
      F ∧ d₁.AgreeOn d₂ range) :
    Run.SameUnless F (resolveEntries lookup d₁ program known entries)
      (resolveEntries lookup d₂ program known entries) s := by
  induction entries generalizing known s with
  | nil => exact .refl
  | cons entry rest ih =>
      rw [List.flatMap_cons] at h
      obtain ⟨hentry, hrest⟩ := List.forall_mem_append.1 h
      exact (Entry.sameUnless hentry).bind fun m _ _ =>
        Run.SameUnless.refl.bind fun _ _ _ => ih hrest

end Walk

/-! ### Whole resolutions -/

theorem sameUnless_resolveExtraMetas {port : Port} {descriptor : Pubkey} {request : Request}
    {d : Bytes} {F : Prop}
    (h : ∀ range ∈ port.instructionRanges descriptor request.accepted,
      F ∧ request.instructionData.AgreeOn d range) :
    Run.SameUnless F (resolveExtraMetas (.cachedOver (.ask port)) descriptor request)
      (resolveExtraMetas (.cachedOver (.ask port)) descriptor { request with instructionData := d })
      .empty := by
  rw [resolveExtraMetas, resolveExtraMetas]
  dsimp only
  refine Run.SameUnless.refl.bind fun base s hbase => ?_
  obtain ⟨-, rfl⟩ := Run.execute_lift_eq_ok_iff.1 hbase
  refine Run.SameUnless.refl.bind fun account s hrun => ?_
  -- the descriptor's account is the first that the port is asked for
  obtain ⟨t, hask⟩ := Lookup.exists_fetched_of_cachedOver rfl hrun
  have haccount : (port []).account descriptor = .ok account := Lookup.account_of_ask hask
  rw [Port.instructionRanges, haccount] at h
  by_cases hpresent : account.present = true
  · rw [if_pos hpresent, if_pos hpresent]
    refine Run.SameUnless.refl.bind fun content s hcontent => ?_
    obtain ⟨hdecode, -⟩ := Run.execute_lift_eq_ok_iff.1 hcontent
    have hentries : account.entries request.accepted = .ok content.entries := by
      rw [Account.entries, if_pos hpresent, hdecode]
      rfl
    dsimp only at h
    rw [hentries] at h
    exact Run.SameUnless.refl.bind fun _ _ _ =>
      (sameUnless_resolveEntries h).bind fun _ _ _ => .refl
  · rw [if_neg hpresent, if_neg hpresent]
    exact .refl

/-- **Only the bytes that the entries name matter.** A resolution that gives a list ends in the same
way for other instruction data that agrees with it on every range that the decoded entries name. If
they name none, every resolution ends in the same way for all instruction data. -/
theorem resolveExtraMetas_instructionData (port : Port) (descriptor : Pubkey) (request : Request)
    (d : Bytes) :
    (∀ metas s, port.resolution descriptor request = (.ok metas, s) →
        (∀ range ∈ port.instructionRanges descriptor request.accepted,
          request.instructionData.AgreeOn d range) →
        port.resolution descriptor { request with instructionData := d } = (.ok metas, s)) ∧
      (port.instructionRanges descriptor request.accepted = [] →
        port.resolution descriptor { request with instructionData := d }
          = port.resolution descriptor request) := by
  constructor
  · intro metas s hrun hagree
    exact (sameUnless_resolveExtraMetas (F := True) fun range hrange =>
      ⟨trivial, hagree range hrange⟩).of_ok hrun
  · intro hnone
    refine ((sameUnless_resolveExtraMetas (F := False) fun range hrange => ?_).eq_of_not id).symm
    rw [hnone] at hrange
    cases hrange

set_option maxRecDepth 4000 in
/-- An entry that reads its key from byte 1 of the instruction data on: what stands in front of the
key and behind it may be anything, and there may be nothing behind it. -/
theorem resolveExtraMetas_instructionData_key :
    let data : Bytes := List.replicate 8 0 ++ [39, 0, 0, 0, 1, 0, 0, 0]
      ++ ([2, 1, 1] ++ List.replicate 30 7 ++ [0, 1])
    let port : Port := fun _ _ => .ok (.raw data)
    let key : Bytes := List.replicate 32 5
    let request : Request := ⟨[.ofMeta (.readonly .zero)], 8 :: key ++ [1, 2, 3], .zero, none⟩
    port.instructionRanges .zero request.accepted = [(1, 32)] ∧
      ∃ metas s, port.resolution .zero request = (.ok metas, s) ∧
        port.resolution .zero { request with instructionData := 9 :: key } = (.ok metas, s) := by
  intro data port key request
  have haccount : (port []).account .zero = .ok ⟨true, data⟩ := rfl
  have hentries : Account.entries ⟨true, data⟩ request.accepted
      = .ok [⟨.keyData (.instructionData 1), false, true⟩] := by
    decide +kernel
  have hranges : port.instructionRanges .zero request.accepted = [(1, 32)] := by
    rw [Port.instructionRanges, haccount]
    dsimp only
    rw [hentries]
    rfl
  obtain ⟨metas, s, hrun⟩ : ∃ metas s, port.resolution .zero request = (.ok metas, s) := by
    rw [Port.resolution_eq rfl haccount hentries]
    exact ⟨_, _, rfl⟩
  refine ⟨hranges, metas, s, hrun, ?_⟩
  refine (resolveExtraMetas_instructionData port .zero request (9 :: key)).1 metas s hrun ?_
  rw [hranges]
  intro range hrange
  rw [List.mem_singleton.1 hrange]
  refine ⟨by decide, fun place hle hlt => ?_⟩
  -- both strings have the key from byte 1 on
  obtain ⟨k, rfl⟩ := Nat.exists_eq_add_of_le' hle
  show (key ++ [1, 2, 3])[k]? = key[k]?
  exact List.getElem?_append_left (by rw [List.length_replicate]; omega)

end ExtraMetas

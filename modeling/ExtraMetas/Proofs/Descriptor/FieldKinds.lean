import ExtraMetas.Proofs.Descriptor.Limits

/-!
# ExtraMetas.Proofs.Descriptor.FieldKinds

**Numbers of another kind** in entries that otherwise keep their limits
(`encodeDescriptor_of_kinds`).

A field of a seed or of a key source that is no whole number is refused by its name, wherever it
stands and whatever it is. A program index is looked at before the fields of its entry, and in
another way: it is compared with the ends of its range and then added to a tag. A truth value passes
as 0 or 1, a text cannot be compared, and a fraction inside the range makes no byte.

"Otherwise" is said by `Draft.retyped`: an entry keeps its limits but for the kinds of its numbers
if it keeps them with 0 in the place of every number of another kind. Under this condition only
kinds are left to be checked, and the walk through the encoder collects these checks in the order in
which they are made (`Except.Checks`).
-/

namespace ExtraMetas

open Layout

/-! ### Kinds of numbers -/

/-- Is the value a whole number? A truth value is none here. -/
def Value.isWhole : Value → Bool
  | int _ => true
  | _ => false

/-- A whole number itself, and 0 for any other value. -/
def Value.orZero : Value → Value
  | int n => .int n
  | _ => .int 0

namespace Draft

/-- The numeric fields of a seed or a key source, each with the name that it has in a refusal. -/
def namedFields : Draft → List (String × Value)
  | instructionData index length => [("seed.index", index), ("seed.length", length)]
  | accountKey index => [("seed.index", index)]
  | accountData account index length =>
    [("seed.account_index", account), ("seed.data_index", index), ("seed.length", length)]
  | instructionDataKey index => [("source.index", index)]
  | accountDataKey account index =>
    [("source.account_index", account), ("source.data_index", index)]
  | _ => []

/-- The numeric fields of the seeds or the key source of an entry. -/
def fields : Draft → List (String × Value)
  | ownSeeds seeds _ | externalSeeds _ seeds _ => seeds.flatMap namedFields
  | keyData source _ => source.namedFields
  | _ => []

/-- The program index of an entry. -/
def programIndex? : Draft → Option Value
  | externalSeeds index _ _ => some index
  | _ => none

/-- The program index, if there is one, is a whole number or a truth value. -/
def IndexIsNumber (d : Draft) : Prop :=
  ∀ v ∈ d.programIndex?, v.integer?.isSome = true

/-- A seed or a key source with 0 in the place of every number of another kind. -/
def retypedPart : Draft → Draft
  | instructionData index length => instructionData index.orZero length.orZero
  | accountKey index => accountKey index.orZero
  | accountData account index length => accountData account.orZero index.orZero length.orZero
  | instructionDataKey index => instructionDataKey index.orZero
  | accountDataKey account index => accountDataKey account.orZero index.orZero
  | d => d

/-- An entry with 0 in the place of every number of another kind. -/
def retyped : Draft → Draft
  | ownSeeds seeds flags => ownSeeds (seeds.map retypedPart) flags
  | externalSeeds index seeds flags =>
    externalSeeds index.orZero (seeds.map retypedPart) flags
  | keyData source flags => keyData source.retypedPart flags
  | d => d

@[simp] theorem packedSize_retypedPart (d : Draft) : d.retypedPart.packedSize = d.packedSize := by
  cases d <;> rfl

@[simp] theorem flags_retyped (d : Draft) : d.retyped.flags = d.flags := by
  cases d <;> rfl

end Draft

/-! ### Checks of kinds -/

/-- Why a field is refused for its kind. -/
def fieldCheck (field : String × Value) : Option EncodeError :=
  if field.2.isWhole then none else some (.fieldKind field.1)

/-- Why a program index is refused for its kind. A truth value is not. -/
def indexCheck : Value → Option EncodeError
  | .int _ | .bool _ => none
  | .fraction x =>
    if x.isOutside externalSeedsFlag then some .programIndexRange
    else some (.programIndexKind (.notInteger "float"))
  | v => some (.programIndexKind (.unordered "<" v.kind "int"))

/-- What is checked of the kinds in an entry. -/
def Draft.kindChecks (d : Draft) : List (Option EncodeError) :=
  d.programIndex?.toList.map indexCheck ++ d.fields.map fieldCheck

theorem fieldCheck_eq_none_iff {field : String × Value} :
    fieldCheck field = none ↔ field.2.isWhole = true := by
  simp [fieldCheck]

theorem indexCheck_eq_none_iff {v : Value} : indexCheck v = none ↔ v.integer?.isSome = true := by
  cases v with
  | fraction x =>
      by_cases hx : x.isOutside externalSeedsFlag <;> simp [indexCheck, Value.integer?, hx]
  | _ => simp [indexCheck, Value.integer?]

/-- Of fields, the first that is no whole number is refused. -/
theorem findSome?_fieldCheck (fields : List (String × Value)) :
    (fields.map fieldCheck).findSome? id =
      (fields.find? fun field => !field.2.isWhole).map fun field => .fieldKind field.1 := by
  induction fields with
  | nil => rfl
  | cons field rest ih =>
      cases hwhole : field.2.isWhole with
      | true => simp [fieldCheck, hwhole, ih]
      | false => simp [fieldCheck, hwhole]

theorem Draft.forall_kindChecks_iff {d : Draft} :
    (∀ check ∈ d.kindChecks, check = none) ↔
      d.IndexIsNumber ∧ ∀ field ∈ d.fields, field.2.isWhole = true := by
  rw [kindChecks, List.forall_mem_append, List.forall_mem_map, List.forall_mem_map]
  simp only [Option.mem_toList, Option.mem_def, indexCheck_eq_none_iff, fieldCheck_eq_none_iff,
    IndexIsNumber]

/-- With a number for its program index, an entry is refused for its first field that is no whole
number. -/
theorem Draft.findSome?_kindChecks {d : Draft} (h : d.IndexIsNumber) :
    d.kindChecks.findSome? id =
      (d.fields.find? fun field => !field.2.isWhole).map fun field => .fieldKind field.1 := by
  have hindex : (d.programIndex?.toList.map indexCheck).findSome? id = none := by
    simpa [indexCheck_eq_none_iff, IndexIsNumber] using h
  rw [kindChecks, List.findSome?_append, hindex, Option.none_or, findSome?_fieldCheck]

/-- Of the program indexes that are no numbers, only a fraction is refused for its value. -/
theorem exists_indexCheck {v : Value} (h : v.integer? = none) :
    ∃ e, indexCheck v = some e ∧
      (e.isOfValue = true ↔ ∃ x, v = .fraction x ∧ x.isOutside externalSeedsFlag = true) := by
  cases v with
  | int n => cases h
  | bool b => cases h
  | fraction x =>
      by_cases hx : x.isOutside externalSeedsFlag = true
      · exact ⟨.programIndexRange, if_pos hx, by simp [EncodeError.isOfValue, hx]⟩
      · exact ⟨.programIndexKind (.notInteger "float"), if_neg hx,
          by simp [EncodeError.isOfValue, hx]⟩
  | _ => exact ⟨_, rfl, by simp [EncodeError.isOfValue]⟩

/-! ### The walk through the encoder -/

theorem checks_octet (name : String) {v : Value} (h : v.orZero.IsOctet) :
    Except.Checks [fieldCheck (name, v)] (octet name v) (fun _ => True) := by
  cases v with
  | int n => exact ⟨UInt8.ofNat n.toNat, if_pos h, trivial⟩
  | _ => rfl

theorem checks_programIndex {v : Value}
    (h : ∃ n, v.orZero.integer? = some n ∧ 0 ≤ n ∧ n ≤ 127) :
    Except.Checks [indexCheck v] (programIndex v) (fun _ => True) := by
  cases v with
  | int n =>
      obtain ⟨m, hm, hzero, hlast⟩ := h
      cases hm
      have hrange : 0 ≤ n ∧ n < externalSeedsFlag := ⟨hzero, Int.lt_add_one_of_le hlast⟩
      exact ⟨_, dif_pos hrange, trivial⟩
  | bool b => cases b <;> exact ⟨_, rfl, trivial⟩
  | fraction x =>
      by_cases hx : x.isOutside externalSeedsFlag = true
      · simp [Except.Checks, indexCheck, programIndex, Value.comparable, Value.integer?,
          Value.number?, hx]
      · simp [Except.Checks, indexCheck, programIndex, Value.comparable, Value.integer?,
          Value.number?, Value.kind, hx]
  | _ => rfl

theorem Draft.checks_toSeed {d : Draft} (h : d.retypedPart.FitsSeed) :
    Except.Checks (d.namedFields.map fieldCheck) d.toSeed (·.pack.length = d.packedSize) := by
  cases d with
  | literal value =>
      have hshort : ¬ maxLiteralSize < value.length := Nat.not_lt.2 h
      refine ⟨.literal value, if_neg hshort, ?_⟩
      simp only [Seed.pack, packedSize, List.length_cons]
      omega
  | instructionData index length =>
      exact (checks_octet _ h.1).bind fun x _ => (checks_octet _ h.2).bind_pure fun y _ => rfl
  | accountKey index => exact (checks_octet _ h).bind_pure fun x _ => rfl
  | accountData account index length =>
      exact (checks_octet _ h.1).bind fun x _ => (checks_octet _ h.2.1).bind fun y _ =>
        (checks_octet _ h.2.2).bind_pure fun z _ => rfl
  | _ => exact h.elim

theorem Draft.checks_toSeeds {drafts : List Draft} (h : FitSeeds (drafts.map retypedPart)) :
    Except.Checks ((drafts.flatMap namedFields).map fieldCheck) (toSeeds drafts)
      (fun _ => True) := by
  obtain ⟨hfit, hroom⟩ := h
  rw [List.forall_mem_map] at hfit
  rw [List.map_flatMap]
  refine (Except.Checks.mapM fun d hd => checks_toSeed (hfit d hd)).bind_ok fun seeds hseeds => ?_
  have hsizes : (drafts.map retypedPart).map packedSize = drafts.map packedSize := by
    rw [List.map_map]
    exact List.map_congr_left fun d _ => packedSize_retypedPart d
  have hsize : (seeds.flatMap Seed.pack).length ≤ configSize := by
    rwa [length_flatMap_pack hseeds, ← hsizes]
  exact ⟨seeds, if_neg (Nat.not_lt.2 hsize), trivial⟩

theorem Draft.checks_toKeySource {d : Draft} (h : d.retypedPart.FitsKeySource) :
    Except.Checks (d.namedFields.map fieldCheck) d.toKeySource (fun _ => True) := by
  cases d with
  | instructionDataKey index => exact (checks_octet _ h).bind_pure fun _ _ => trivial
  | accountDataKey account index =>
      exact (checks_octet _ h.1).bind fun _ _ => (checks_octet _ h.2).bind_pure fun _ _ => trivial
  | _ => exact h.elim

theorem Draft.checks_toAddress {d : Draft} (h : d.retyped.FitsAddress) :
    Except.Checks d.kindChecks d.toAddress (·.2 = d.flags) := by
  cases d with
  | literalAddress address flags => exact ⟨(.literal address, flags), rfl, rfl⟩
  | ownSeeds seeds flags => exact (checks_toSeeds h).bind_pure fun _ _ => rfl
  | externalSeeds index seeds flags =>
      exact (checks_programIndex h.1).bind fun _ _ => (checks_toSeeds h.2).bind_pure fun _ _ => rfl
  | keyData source flags => exact (checks_toKeySource h).bind_pure fun _ _ => rfl
  | _ => exact h.elim

/-- Of an entry that otherwise keeps its limits, kinds alone are checked. -/
theorem Draft.checks_packEntry {d : Draft} (h : d.retyped.FitsEntry) :
    Except.Checks d.kindChecks d.packEntry (fun _ => True) := by
  obtain ⟨haddress, hsigner, hwritable⟩ := h
  rw [flags_retyped] at hsigner hwritable
  refine (checks_toAddress haddress).bind_ok ?_
  rintro ⟨address, flags⟩ rfl
  obtain ⟨signer, hsigner⟩ := (succeedsIff_flagByte _).exists_ok_iff.2 hsigner
  obtain ⟨writable, hwritable⟩ := (succeedsIff_flagByte _).exists_ok_iff.2 hwritable
  refine ⟨address.pack ++ [signer, writable], ?_, trivial⟩
  simp only [hsigner, hwritable]
  rfl

/-! ### Records -/

theorem encodeDescriptor_error_cases {discriminator : Bytes} {drafts : List Draft} {e : EncodeError}
    (h : encodeDescriptor discriminator drafts = .error e) :
    e = .discriminatorSize ∨ e = .tooManyEntries ∨ ∃ d ∈ drafts, d.packEntry = .error e := by
  by_cases hsize : discriminator.length = discriminatorSize
  · by_cases hcount : drafts.length ≤ maxEntries
    · cases hraws : drafts.mapM Draft.packEntry with
      | error e' =>
          rw [encodeDescriptor_of_refused hsize hcount hraws] at h
          cases h
          obtain ⟨before, d, after, rfl, hd, -⟩ := Except.mapM_eq_error_iff.1 hraws
          exact .inr (.inr ⟨d, by simp, hd⟩)
      | ok raws =>
          rw [encodeDescriptor_of_blocks hsize hcount (Except.mapM_eq_ok_iff.1 hraws)] at h
          cases h
    · rw [encodeDescriptor, if_neg (not_not.2 hsize), if_pos (Nat.lt_of_not_le hcount)] at h
      cases h
      exact .inr (.inl rfl)
  · rw [encodeDescriptor, if_pos hsize] at h
    cases h
    exact .inl rfl

/-- A truth value is a program index of 0 or 1. -/
theorem Draft.packEntry_truth (b : Bool) (seeds : List Draft) (flags : Flags) :
    (externalSeeds (.bool b) seeds flags).packEntry =
      (externalSeeds (.int (if b then 1 else 0)) seeds flags).packEntry := by
  rfl

/-- How the kinds of numbers decide what is written of entries that otherwise keep their limits. -/
structure DecidedByKinds (discriminator : Bytes) (drafts : List Draft) : Prop where
  /-- An entry is written iff the numbers of its seeds or its key source are whole, and so is its
  program index or it is a truth value. -/
  written : ∀ d ∈ drafts, (∃ raw, d.packEntry = .ok raw) ↔
    d.IndexIsNumber ∧ ∀ field ∈ d.fields, field.2.isWhole = true
  /-- Otherwise, with such a program index or with none, the first field of another kind is refused
  by its name. -/
  named : ∀ d ∈ drafts, d.IndexIsNumber → ∀ field,
    d.fields.find? (fun field => !field.2.isWhole) = some field →
      d.packEntry = .error (.fieldKind field.1)
  /-- A program index of another kind is refused, but for its value only if it is a fraction that is
  out of range. -/
  index : ∀ d ∈ drafts, ∀ v ∈ d.programIndex?, v.integer? = none →
    ∃ e, d.packEntry = .error e ∧
      (e.isOfValue = true ↔ ∃ x, v = .fraction x ∧ x.isOutside externalSeedsFlag = true)
  /-- A truth value is written as 0 or 1. -/
  truth : ∀ b seeds flags, .externalSeeds (.bool b) seeds flags ∈ drafts →
    (Draft.externalSeeds (.bool b) seeds flags).packEntry =
      (Draft.externalSeeds (.int (if b then 1 else 0)) seeds flags).packEntry
  /-- A record is written iff its header keeps the limits and each of its entries is written. -/
  record : (∃ record, encodeDescriptor discriminator drafts = .ok record) ↔
    discriminator.length = 8 ∧ drafts.length ≤ 32 ∧ ∀ d ∈ drafts, ∃ raw, d.packEntry = .ok raw
  /-- Where no program index is of another kind, one field that is makes the record refused for a
  value. -/
  refused : (∀ d ∈ drafts, d.IndexIsNumber) → ∀ d ∈ drafts, ∀ field ∈ d.fields,
    field.2.isWhole = false →
      ∃ e, encodeDescriptor discriminator drafts = .error e ∧ e.isOfValue = true
  /-- A record whose header keeps the limits is refused as the first of its entries that is. -/
  first : discriminator.length = 8 → drafts.length ≤ 32 → ∀ before d after e,
    drafts = before ++ d :: after → (∀ other ∈ before, ∃ raw, other.packEntry = .ok raw) →
      d.packEntry = .error e → encodeDescriptor discriminator drafts = .error e

/-- **Numbers of another kind.** Take entries that keep their limits with 0 in the place of every
number that is not whole. A field of a seed or of a key source that is not whole is then refused by
its name, in its entry, and for a value in every record with that entry. A program index that is not
whole escapes this: a truth value is written, and other kinds are mostly refused for their kind. -/
theorem encodeDescriptor_of_kinds (discriminator : Bytes) {drafts : List Draft}
    (h : ∀ d ∈ drafts, d.retyped.FitsEntry) : DecidedByKinds discriminator drafts := by
  have hchecks : ∀ d ∈ drafts, Except.Checks d.kindChecks d.packEntry (fun _ => True) :=
    fun d hd => Draft.checks_packEntry (h d hd)
  have hwritten : ∀ d ∈ drafts, (∃ raw, d.packEntry = .ok raw) ↔
      d.IndexIsNumber ∧ ∀ field ∈ d.fields, field.2.isWhole = true :=
    fun d hd => (hchecks d hd).exists_ok_iff.trans Draft.forall_kindChecks_iff
  constructor
  case written => exact hwritten
  case named =>
    intro d hd hindex field hfield
    rw [(hchecks d hd).eq_error_iff, Draft.findSome?_kindChecks hindex, hfield, Option.map_some]
  case index =>
    intro d hd v hv hnumber
    obtain ⟨e, he, hvalue⟩ := exists_indexCheck hnumber
    refine ⟨e, (hchecks d hd).eq_error_iff.2 ?_, hvalue⟩
    simp [Draft.kindChecks, Option.mem_def.1 hv, he]
  case truth => exact fun b seeds flags _ => Draft.packEntry_truth b seeds flags
  case record => exact exists_encodeDescriptor_iff
  case refused =>
    intro hindex d hd field hfield hwhole
    cases hrecord : encodeDescriptor discriminator drafts with
    | ok record =>
        have hall := (exists_encodeDescriptor_iff.1 ⟨record, hrecord⟩).2.2 d hd
        rw [((hwritten d hd).1 hall).2 field hfield] at hwhole
        cases hwhole
    | error e =>
        refine ⟨e, rfl, ?_⟩
        rcases encodeDescriptor_error_cases hrecord with rfl | rfl | ⟨other, hother, herror⟩
        · rfl
        · rfl
        · rw [(hchecks other hother).eq_error_iff,
            Draft.findSome?_kindChecks (hindex other hother), Option.map_eq_some_iff] at herror
          obtain ⟨_, -, rfl⟩ := herror
          rfl
  case first =>
    intro hsize hcount before d after e hdrafts hbefore hd
    exact encodeDescriptor_of_refused hsize hcount
      (Except.mapM_eq_error_iff.2 ⟨before, d, after, hdrafts, hd, hbefore⟩)

/-- A record is refused for the text in its second entry, and with a fraction before it for the kind
of the fraction. The truth value in the first entry is written. -/
theorem encodeDescriptor_of_kinds_in_order :
    let truth : Draft := .externalSeeds (.bool true) [.literal [7]] .none
    let fraction : Draft := .externalSeeds (.fraction (.finite (3 / 2))) [.accountKey .null] .none
    let text : Draft := .ownSeeds
      [.accountKey (.int 0), .instructionData (.int 1) (.text "8"), .accountKey .null] .none
    let write (drafts : List Draft) := encodeDescriptor (List.replicate 8 1) drafts
    (∀ d ∈ [truth, fraction, text], d.retyped.FitsEntry) ∧ (∃ raw, truth.packEntry = .ok raw) ∧
      text.packEntry = .error (.fieldKind "seed.length") ∧
      (∃ e, write [truth, text] = .error e ∧ e.isOfValue = true) ∧
      ∃ e, write [truth, fraction, text] = .error e ∧ e.isOfValue = false := by
  intro truth fraction text write
  have hlimits : ∀ d ∈ [truth, fraction, text], d.retyped.FitsEntry := by
    simp [truth, fraction, text, Draft.retyped, Draft.retypedPart, Draft.FitsEntry,
      Draft.FitsAddress, Draft.FitSeeds, Draft.FitsSeed, Draft.packedSize, Draft.flags, Flags.Fit,
      Flags.none, ByteField.toInt, Value.orZero, Value.IsOctet]
  have hpart : [truth, text] ⊆ [truth, fraction, text] := by simp
  have hall := encodeDescriptor_of_kinds (List.replicate 8 1) hlimits
  have htwo := encodeDescriptor_of_kinds (List.replicate 8 1) fun d hd => hlimits d (hpart hd)
  have hnumbers : ∀ d ∈ [truth, text], d.IndexIsNumber := by
    simp [truth, text, Draft.IndexIsNumber, Draft.programIndex?, Value.integer?]
  have hnone : ∀ field ∈ truth.fields, field.2.isWhole = true := by
    simp [truth, Draft.fields, Draft.namedFields]
  have htruth : ∃ raw, truth.packEntry = .ok raw :=
    (htwo.written truth (by simp)).2 ⟨hnumbers truth (by simp), hnone⟩
  have hlength : ("seed.length", Value.text "8") ∈ text.fields := by
    simp [text, Draft.fields, Draft.namedFields]
  have hinside : (Extended.finite (3 / 2)).isOutside externalSeedsFlag = false := by decide +kernel
  refine ⟨hlimits, htruth, htwo.named text (by simp) (hnumbers text (by simp)) _ rfl,
    htwo.refused hnumbers text (by simp) _ hlength rfl, ?_⟩
  obtain ⟨e, he, hvalue⟩ := hall.index fraction (by simp) _ rfl rfl
  refine ⟨e, ?_, ?_⟩
  · exact hall.first rfl (by decide) [truth] fraction [text] e rfl (by simpa using htruth) he
  · rw [← Bool.not_eq_true, hvalue]
    rintro ⟨x, hx, houtside⟩
    cases hx
    rw [hinside] at houtside
    cases houtside

/-- A truth value in the place of a program index is written like the index 1, alone and in a
record, and nothing at all in its place is refused for its kind. -/
theorem packEntry_truth_as_index :
    let entry (index : Value) : Draft := .externalSeeds index [] .none
    (entry (.bool true)).retyped.FitsEntry ∧ (Value.bool true).isWhole = false ∧
      (entry (.bool true)).packEntry = .ok (129 :: List.replicate 34 0) ∧
      (∃ record, encodeDescriptor (List.replicate 8 1) [entry (.bool true)] = .ok record) ∧
      (entry .null).retyped.FitsEntry ∧ Value.null.isWhole = false ∧
      ∃ e, (entry .null).packEntry = .error e ∧ e.isOfValue = false := by
  intro entry
  have hlimits : ∀ v : Value, v.orZero = .int 0 → (entry v).retyped.FitsEntry := by
    intro v hv
    simp [entry, Draft.retyped, hv, Draft.FitsEntry, Draft.FitsAddress, Draft.FitSeeds, Draft.flags,
      Flags.Fit, Flags.none, ByteField.toInt]
  have htruth : (entry (.bool true)).packEntry = .ok (129 :: List.replicate 34 0) := rfl
  refine ⟨hlimits _ rfl, rfl, htruth, ?_, hlimits _ rfl, rfl, _, rfl, rfl⟩
  exact exists_encodeDescriptor_iff.2 ⟨rfl, by decide, by simp [htruth]⟩

end ExtraMetas

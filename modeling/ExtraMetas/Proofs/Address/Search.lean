import ExtraMetas.Address
import Mathlib.Data.List.Basic

/-!
# ExtraMetas.Proofs.Address.Search

**The search for a bump finds the greatest one that can be used**, and the derivation of the same
seeds with that bump agrees with it (`find_greatestBump`), for every hash and every curve test.

A search among any bumps stops at the first whose candidate is off the curve and has tried exactly
the bumps up to it (`searchAmong_cases`). Since all bumps are the numbers from 255 down, what stands
before a bump in them are the greater ones (`mem_of_lt_of_bumps_eq`), and the place of a bump says
how many were tried (`map_toNat_of_bumps_eq`).
-/

namespace ExtraMetas.Address

variable {seeds : List Bytes}

/-! ### The limits -/

/-- A derivation takes the seeds. -/
structure WithinLimits (seeds : List Bytes) : Prop where
  count : seeds.length ≤ maxSeeds
  size : ∀ seed ∈ seeds, seed.length ≤ maxSeedSize

/-- The seeds leave room for a bump. -/
structure Searchable (seeds : List Bytes) : Prop where
  count : seeds.length ≤ 15
  size : ∀ seed ∈ seeds, seed.length ≤ 32

/-- A last seed that is not too long itself counts, and changes nothing else. -/
theorem withinLimits_append_iff {last : Bytes} (hlast : last.length ≤ maxSeedSize) :
    WithinLimits (seeds ++ [last]) ↔ Searchable seeds := by
  constructor
  · rintro ⟨hcount, hsize⟩
    rw [List.length_append, List.length_singleton, maxSeeds] at hcount
    exact ⟨by omega, fun seed hseed => hsize seed (List.mem_append_left _ hseed)⟩
  · rintro ⟨hcount, hsize⟩
    constructor
    case count =>
      rw [List.length_append, List.length_singleton, maxSeeds]
      omega
    case size =>
      intro seed hseed
      rcases List.mem_append.1 hseed with hseed | hseed
      · exact hsize seed hseed
      · rw [List.mem_singleton.1 hseed]
        exact hlast

/-- What a check of the seeds can say. -/
theorem checkSeeds_cases (seeds : List Bytes) :
    (maxSeeds < seeds.length ∧ checkSeeds seeds = .error (.tooManySeeds seeds.length)) ∨
    (∃ index seed, seeds[index]? = some seed ∧ maxSeedSize < seed.length ∧
      checkSeeds seeds = .error (.seedTooLong index seed.length)) ∨
    (WithinLimits seeds ∧ checkSeeds seeds = .ok ()) := by
  rw [checkSeeds]
  by_cases hcount : maxSeeds < seeds.length
  · exact .inl ⟨hcount, if_pos hcount⟩
  · rw [if_neg hcount]
    refine .inr ?_
    generalize hfind : seeds.zipIdx.find? _ = hit
    cases hit with
    | some hit =>
        obtain ⟨seed, index⟩ := hit
        have hlong := List.find?_some hfind
        have hmem := List.mem_zipIdx_iff_getElem?.1 (List.mem_of_find?_eq_some hfind)
        exact .inl ⟨index, seed, hmem, of_decide_eq_true hlong, rfl⟩
    | none =>
        refine .inr ⟨⟨Nat.le_of_not_lt hcount, ?_⟩, rfl⟩
        intro seed hseed
        obtain ⟨index, hindex⟩ := List.getElem?_of_mem hseed
        have hmem : (seed, index) ∈ seeds.zipIdx := List.mem_zipIdx_iff_getElem?.2 hindex
        have hshort := List.find?_eq_none.1 hfind _ hmem
        exact Nat.le_of_not_lt (mt decide_eq_true hshort)

theorem checkSeeds_of_withinLimits (h : WithinLimits seeds) : checkSeeds seeds = .ok () := by
  rcases checkSeeds_cases seeds with ⟨hcount, -⟩ | ⟨index, seed, hseed, hsize, -⟩ | ⟨-, hok⟩
  · exact absurd h.count (Nat.not_le_of_gt hcount)
  · exact absurd (h.size seed (List.mem_of_getElem? hseed)) (Nat.not_le_of_gt hsize)
  · exact hok

/-- Why a search refuses the seeds. The bump counts as a seed. -/
inductive Refusal (seeds : List Bytes) : Error → Prop
  | tooMany (hcount : 15 < seeds.length) : Refusal seeds (.tooManySeeds (seeds.length + 1))
  | tooLong {index : Nat} {seed : Bytes} (hseed : seeds[index]? = some seed)
      (hsize : 32 < seed.length) : Refusal seeds (.seedTooLong index seed.length)

theorem Refusal.not_searchable {e : Error} (h : Refusal seeds e) : ¬ Searchable seeds := by
  rintro ⟨hcount, hsize⟩
  cases h with
  | tooMany hmany => omega
  | tooLong hseed hlong =>
      have := hsize _ (List.mem_of_getElem? hseed)
      omega

/-- The check before a search: it leaves room for the bump. -/
theorem checkSeeds_append_cases (seeds : List Bytes) :
    (∃ e, Refusal seeds e ∧ checkSeeds (seeds ++ [[]]) = .error e) ∨
    (Searchable seeds ∧ checkSeeds (seeds ++ [[]]) = .ok ()) := by
  rcases checkSeeds_cases (seeds ++ [[]]) with
    ⟨hcount, hmany⟩ | ⟨index, seed, hseed, hsize, hlong⟩ | ⟨hwithin, hok⟩
  · rw [List.length_append, List.length_singleton] at hcount hmany
    exact .inl ⟨_, .tooMany (Nat.lt_of_succ_lt_succ hcount), hmany⟩
  · refine .inl ⟨_, .tooLong ?_ hsize, hlong⟩
    -- the seed that is appended is not the one that is too long
    by_cases hindex : index < seeds.length
    · rwa [List.getElem?_append_left hindex] at hseed
    · rw [List.getElem?_append_right (Nat.le_of_not_lt hindex)] at hseed
      rw [List.mem_singleton.1 (List.mem_of_getElem? hseed)] at hsize
      cases hsize
  · exact .inr ⟨(withinLimits_append_iff (Nat.zero_le _)).1 hwithin, hok⟩

/-! ### All bumps -/

theorem map_toNat_bumps : bumps.map UInt8.toNat = (List.range 256).map (255 - ·) := by
  decide +kernel

theorem mem_bumps (bump : UInt8) : bump ∈ bumps := by
  rw [bumps, List.mem_map]
  refine ⟨bump.toNat, ?_, UInt8.ofNat_toNat⟩
  rw [List.mem_reverse, List.mem_range]
  exact bump.toNat_lt

section Bumps

variable {before after : List UInt8} {bump b : UInt8}

/-- A bump stands in its place, counted from 255 down. -/
theorem length_add_toNat_of_bumps_eq (h : bumps = before ++ bump :: after) :
    before.length + bump.toNat = 255 := by
  have hmap : before.map UInt8.toNat ++ bump.toNat :: after.map UInt8.toNat
      = (List.range 256).map (255 - ·) := by
    rw [← map_toNat_bumps, h, List.map_append, List.map_cons]
  have hlength := congrArg List.length hmap
  rw [List.length_append, List.length_cons, List.length_map, List.length_map, List.length_map,
    List.length_range] at hlength
  have hlt : before.length < 256 := by omega
  have hat := congrArg (·[before.length]?) hmap
  simp only [List.getElem?_map, List.getElem?_range hlt, Option.map_some] at hat
  rw [List.getElem?_append_right (Nat.le_of_eq (List.length_map _)), List.length_map,
    Nat.sub_self] at hat
  have hbump : bump.toNat = 255 - before.length := Option.some.inj hat
  omega

/-- Up to a bump, all bumps are the numbers from 255 down to it. -/
theorem map_toNat_of_bumps_eq (h : bumps = before ++ bump :: after) :
    (before ++ [bump]).map UInt8.toNat = (List.range (256 - bump.toNat)).map (255 - ·) := by
  have hplace := length_add_toNat_of_bumps_eq h
  have hlength : (before ++ [bump]).length = 256 - bump.toNat := by
    rw [List.length_append, List.length_singleton]
    omega
  have htake : before ++ [bump] = bumps.take (256 - bump.toNat) := by
    rw [h, ← List.take_left' hlength, List.append_assoc, List.singleton_append]
  rw [htake, List.map_take, map_toNat_bumps, ← List.map_take, List.take_range,
    Nat.min_eq_left (Nat.sub_le _ _)]

/-- What stands before a bump are the greater ones. -/
theorem mem_of_lt_of_bumps_eq (h : bumps = before ++ bump :: after) (hb : bump < b) :
    b ∈ before := by
  have hlt := UInt8.lt_iff_toNat_lt.1 hb
  have hsize := b.toNat_lt
  have hmem : b.toNat ∈ (before ++ [bump]).map UInt8.toNat := by
    rw [map_toNat_of_bumps_eq h, List.mem_map]
    exact ⟨255 - b.toNat, List.mem_range.2 (by omega), by omega⟩
  obtain ⟨c, hc, heq⟩ := List.mem_map.1 hmem
  obtain rfl := UInt8.toNat_inj.1 heq
  rcases List.mem_append.1 hc with hc | hc
  · exact hc
  · rw [List.mem_singleton.1 hc] at hlt
    omega

end Bumps

/-! ### The search -/

variable {scheme : Scheme} {program : Pubkey} {bump : UInt8}

/-- The candidate of a bump is a point of the curve. -/
def Taken (scheme : Scheme) (seeds : List Bytes) (program : Pubkey) (bump : UInt8) : Prop :=
  scheme.onCurve (candidate scheme (seeds ++ [[bump]]) program) = true

theorem searchAmong_cons_of_taken (h : Taken scheme seeds program bump) (rest : List UInt8) :
    searchAmong scheme seeds program (bump :: rest) =
      ⟨bump :: (searchAmong scheme seeds program rest).tried,
        (searchAmong scheme seeds program rest).found⟩ :=
  if_pos h

theorem searchAmong_cons_of_free (h : ¬ Taken scheme seeds program bump) (rest : List UInt8) :
    searchAmong scheme seeds program (bump :: rest) =
      ⟨[bump], some (candidate scheme (seeds ++ [[bump]]) program, bump)⟩ :=
  if_neg h

/-- A search tries the bumps in order, up to the first that is not taken. -/
theorem searchAmong_cases (scheme : Scheme) (seeds : List Bytes) (program : Pubkey)
    (tries : List UInt8) :
    ((∀ bump ∈ tries, Taken scheme seeds program bump) ∧
      searchAmong scheme seeds program tries = ⟨tries, none⟩) ∨
    ∃ before bump after, tries = before ++ bump :: after ∧
      (∀ b ∈ before, Taken scheme seeds program b) ∧ ¬ Taken scheme seeds program bump ∧
      searchAmong scheme seeds program tries =
        ⟨before ++ [bump], some (candidate scheme (seeds ++ [[bump]]) program, bump)⟩ := by
  induction tries with
  | nil => exact .inl ⟨fun bump hbump => (List.not_mem_nil hbump).elim, rfl⟩
  | cons bump rest ih =>
      by_cases htaken : Taken scheme seeds program bump
      · rw [searchAmong_cons_of_taken htaken]
        rcases ih with ⟨hall, hrest⟩ | ⟨before, b, after, rfl, hbefore, hfree, hrest⟩
        · rw [hrest]
          exact .inl ⟨List.forall_mem_cons.2 ⟨htaken, hall⟩, rfl⟩
        · rw [hrest]
          exact .inr ⟨bump :: before, b, after, rfl, List.forall_mem_cons.2 ⟨htaken, hbefore⟩,
            hfree, rfl⟩
      · exact .inr ⟨[], bump, rest, rfl, fun b hb => (List.not_mem_nil hb).elim, htaken,
          searchAmong_cons_of_free htaken rest⟩

/-- The bumps that a search for an address tries, in order; none if it refuses the seeds. -/
def tested (scheme : Scheme) (seeds : List Bytes) (program : Pubkey) : List UInt8 :=
  match search scheme seeds program with
  | .ok outcome => outcome.tried
  | .error _ => []

/-- What a search for an address can come to, with the bumps that it tried. -/
inductive Outcome (scheme : Scheme) (seeds : List Bytes) (program : Pubkey) :
    Except Error (Pubkey × UInt8) → List UInt8 → Prop
  | refused {e : Error} (hrefusal : Refusal seeds e) : Outcome scheme seeds program (.error e) []
  | exhausted (hseeds : Searchable seeds) (hall : ∀ bump, Taken scheme seeds program bump) :
      Outcome scheme seeds program (.error (.exhausted seeds.length program)) bumps
  | found {before after : List UInt8} {bump : UInt8} (hseeds : Searchable seeds)
      (hbumps : bumps = before ++ bump :: after)
      (hbefore : ∀ b ∈ before, Taken scheme seeds program b)
      (hfree : ¬ Taken scheme seeds program bump) :
      Outcome scheme seeds program
        (.ok (candidate scheme (seeds ++ [[bump]]) program, bump)) (before ++ [bump])

/-- Seeds that leave room for a bump are searched with. -/
theorem search_of_searchable (hseeds : Searchable seeds) :
    search scheme seeds program = .ok (searchAmong scheme seeds program bumps) := by
  have hwithin : WithinLimits (seeds ++ [[]]) :=
    (withinLimits_append_iff (Nat.zero_le _)).2 hseeds
  rw [search, checkSeeds_of_withinLimits hwithin]
  rfl

theorem find_of_searchable (hseeds : Searchable seeds) :
    find scheme seeds program = match (searchAmong scheme seeds program bumps).found with
      | some hit => .ok hit
      | none => .error (.exhausted seeds.length program) := by
  rw [find, search_of_searchable hseeds]
  rfl

theorem find_outcome (scheme : Scheme) (seeds : List Bytes) (program : Pubkey) :
    Outcome scheme seeds program (find scheme seeds program) (tested scheme seeds program) := by
  rcases checkSeeds_append_cases seeds with ⟨e, hrefusal, hcheck⟩ | ⟨hseeds, -⟩
  · rw [find, tested, search, hcheck]
    exact .refused hrefusal
  · rw [find_of_searchable hseeds, tested, search_of_searchable hseeds]
    rcases searchAmong_cases scheme seeds program bumps with
      ⟨hall, hamong⟩ | ⟨before, bump, after, hbumps, hbefore, hfree, hamong⟩
    · rw [hamong]
      exact .exhausted hseeds fun bump => hall bump (mem_bumps bump)
    · rw [hamong]
      exact .found hseeds hbumps hbefore hfree

/-- An address is found iff the seeds leave room for a bump and some bump is not taken. -/
theorem Outcome.exists_ok_iff {answer : Except Error (Pubkey × UInt8)} {tried : List UInt8}
    (h : Outcome scheme seeds program answer tried) :
    (∃ hit, answer = .ok hit) ↔ Searchable seeds ∧ ∃ bump, ¬ Taken scheme seeds program bump := by
  cases h with
  | refused hrefusal =>
      constructor
      · rintro ⟨hit, hhit⟩
        cases hhit
      · exact fun hfree => absurd hfree.1 hrefusal.not_searchable
  | exhausted hseeds hall =>
      constructor
      · rintro ⟨hit, hhit⟩
        cases hhit
      · rintro ⟨-, bump, hfree⟩
        exact absurd (hall bump) hfree
  | @found before after bump hseeds hbumps hbefore hfree =>
      exact ⟨fun _ => ⟨hseeds, bump, hfree⟩, fun _ => ⟨_, rfl⟩⟩

/-- What is found is the candidate of the first bump that is not taken. -/
theorem Outcome.first {address : Pubkey} {tried : List UInt8}
    (h : Outcome scheme seeds program (.ok (address, bump)) tried) :
    address = candidate scheme (seeds ++ [[bump]]) program ∧
      ¬ Taken scheme seeds program bump ∧ ∀ b, bump < b → Taken scheme seeds program b := by
  cases h with
  | found hseeds hbumps hbefore hfree =>
      exact ⟨rfl, hfree, fun b hb => hbefore b (mem_of_lt_of_bumps_eq hbumps hb)⟩

/-- A derivation with a bump, for seeds that leave room for it. -/
theorem create_append (hseeds : Searchable seeds) (scheme : Scheme) (program : Pubkey)
    (bump : UInt8) :
    create scheme (seeds ++ [[bump]]) program =
      if scheme.onCurve (candidate scheme (seeds ++ [[bump]]) program) then .error .onCurve
      else .ok (candidate scheme (seeds ++ [[bump]]) program) := by
  have hlast : [bump].length ≤ maxSeedSize := by
    show 1 ≤ maxSeedSize
    decide
  rw [create, checkSeeds_of_withinLimits ((withinLimits_append_iff hlast).2 hseeds)]
  rfl

theorem create_of_taken (hseeds : Searchable seeds) (h : Taken scheme seeds program bump) :
    create scheme (seeds ++ [[bump]]) program = .error .onCurve := by
  rw [create_append hseeds]
  exact if_pos h

theorem create_of_free (hseeds : Searchable seeds) (h : ¬ Taken scheme seeds program bump) :
    create scheme (seeds ++ [[bump]]) program =
      .ok (candidate scheme (seeds ++ [[bump]]) program) := by
  rw [create_append hseeds]
  exact if_neg h

/-- What a search for an address answers, and which bumps it tried for it. -/
structure GreatestBump (scheme : Scheme) (seeds : List Bytes) (program : Pubkey)
    (answer : Except Error (Pubkey × UInt8)) (tried : List UInt8) : Prop where
  /-- Seeds that leave no room for a bump are refused, and nothing is tried. -/
  refused : ¬ Searchable seeds → ∃ e, Refusal seeds e ∧ answer = .error e ∧ tried = []
  /-- Other seeds lead to an address, or the search runs out. -/
  answered : Searchable seeds →
    (∃ hit, answer = .ok hit) ∨ answer = .error (.exhausted seeds.length program)
  /-- The address is that of the seeds with the bump, and no greater bump has one. -/
  found : ∀ address bump, answer = .ok (address, bump) →
    create scheme (seeds ++ [[bump]]) program = .ok address ∧ scheme.onCurve address = false ∧
    (∀ b, bump < b → create scheme (seeds ++ [[b]]) program = .error .onCurve) ∧
    tried.map UInt8.toNat = (List.range (256 - bump.toNat)).map (255 - ·)
  /-- The search runs out iff every bump is taken. -/
  exhausted : answer = .error (.exhausted seeds.length program) ↔
    Searchable seeds ∧ ∀ bump, Taken scheme seeds program bump
  /-- It has then tried each of them once. -/
  exhausted_tried : answer = .error (.exhausted seeds.length program) →
    tried.map UInt8.toNat = (List.range 256).map (255 - ·)

theorem Outcome.greatestBump {answer : Except Error (Pubkey × UInt8)} {tried : List UInt8}
    (h : Outcome scheme seeds program answer tried) :
    GreatestBump scheme seeds program answer tried := by
  cases h with
  | @refused e hrefusal =>
      have hne : (.error e : Except Error (Pubkey × UInt8))
          ≠ .error (.exhausted seeds.length program) := by
        intro heq
        cases heq
        cases hrefusal
      constructor
      case refused => exact fun _ => ⟨e, hrefusal, rfl, rfl⟩
      case answered => exact fun hseeds => absurd hseeds hrefusal.not_searchable
      case found => exact fun address bump heq => nomatch heq
      case exhausted =>
        exact ⟨fun heq => absurd heq hne, fun hall => absurd hall.1 hrefusal.not_searchable⟩
      case exhausted_tried => exact fun heq => absurd heq hne
  | exhausted hseeds hall =>
      constructor
      case refused => exact fun hrefused => absurd hseeds hrefused
      case answered => exact fun _ => .inr rfl
      case found => exact fun address bump heq => nomatch heq
      case exhausted => exact ⟨fun _ => ⟨hseeds, hall⟩, fun _ => rfl⟩
      case exhausted_tried => exact fun _ => map_toNat_bumps
  | found hseeds hbumps hbefore hfree =>
      constructor
      case refused => exact fun hrefused => absurd hseeds hrefused
      case answered => exact fun _ => .inl ⟨_, rfl⟩
      case found =>
        intro address bump heq
        cases heq
        refine ⟨create_of_free hseeds hfree, Bool.eq_false_iff.2 hfree, fun b hb => ?_,
          map_toNat_of_bumps_eq hbumps⟩
        exact create_of_taken hseeds (hbefore b (mem_of_lt_of_bumps_eq hbumps hb))
      case exhausted => exact ⟨fun heq => (nomatch heq), fun hall => absurd (hall.2 _) hfree⟩
      case exhausted_tried => exact fun heq => nomatch heq

/-- **The search finds the greatest bump that can be used**, whatever the hash and the curve test:
its address is what the same seeds and that bump derive, and no greater bump derives one. -/
theorem find_greatestBump (scheme : Scheme) (seeds : List Bytes) (program : Pubkey) :
    GreatestBump scheme seeds program (find scheme seeds program)
      (tested scheme seeds program) :=
  (find_outcome scheme seeds program).greatestBump

/-- For a curve that holds the candidates of 255 and 254 alone, the bump is 253, and three candidates
are tried; for one that holds everything, all are. -/
theorem find_greatestBump_third :
    let key (first : UInt8) : Pubkey := ⟨List.replicate 32 first, List.length_replicate⟩
    let scheme (onCurve : UInt8 → Bool) : Scheme :=
      ⟨fun b => key (b.headD 0), fun k => onCurve (k.bytes.headD 0)⟩
    let high := scheme (fun n => decide (253 < n))
    let all := scheme (fun _ => true)
    find high [] (key 0) = .ok (key 253, 253) ∧ tested high [] (key 0) = [255, 254, 253] ∧
      create high [[253]] (key 0) = .ok (key 253) ∧
      create high [[255]] (key 0) = .error .onCurve ∧
      find all [] (key 0) = .error (.exhausted 0 (key 0)) ∧
      tested all (List.replicate 16 []) (key 0) = [] := by
  intro key scheme high all
  have hfind : find high [] (key 0) = .ok (key 253, 253) := rfl
  obtain ⟨hcreate, -, hgreater, -⟩ :=
    (find_greatestBump high [] (key 0)).found (key 253) 253 hfind
  have hseeds : Searchable [] := ⟨Nat.zero_le _, fun seed hseed => (List.not_mem_nil hseed).elim⟩
  have hmany : ¬ Searchable (List.replicate 16 []) := fun h => absurd h.count (by decide)
  obtain ⟨e, -, -, hrefused⟩ := (find_greatestBump all (List.replicate 16 []) (key 0)).refused hmany
  exact ⟨hfind, rfl, hcreate, hgreater 255 (by decide),
    (find_greatestBump all [] (key 0)).exhausted.2 ⟨hseeds, fun _ => rfl⟩, hrefused⟩

end ExtraMetas.Address

import ExtraMetas.Decimal.Rounding

/-!
# ExtraMetas.Decimal.Shortest

The **shortest decimal** that reads back as a given binary fraction, and its text.

The decimals with a given count of places form a grid, and each grid holds the coarser ones. A
decimal that reads back as `q` on some grid lies next to `q` or further off than a decimal that
does, so the two neighbours of `q` are all that has to be tried (`neighbours`). The first grid on
which one of them reads back gives the answer (`shortest`): it does read back
(`nearestBinary_of_shortest`), and on the grids before it no neighbour does
(`not_readsBack_of_coarser`).
-/

namespace ExtraMetas

/-- The number `digits / 10 ^ places`. -/
structure Decimal where
  digits : Nat
  places : Int
deriving DecidableEq

namespace Decimal

/-- The value of `d`. -/
def toRat (d : Decimal) : Rat :=
  let (n, den) := overPower 10 d.digits d.places
  mkRat n den

/-- The two decimals with `places` places around `q`, for `q ≥ 0`: the nearer first, and the even
one if `q` is halfway. -/
def neighbours (q : Rat) (places : Int) : List Decimal :=
  let (n, d) := overPower 10 q (-places)
  let low := n / d
  let near := roundEven n d
  [⟨near, places⟩, ⟨if near = low then low + 1 else low, places⟩]

/-- Is `q` what `d` is rounded to? -/
def readsBack (q : Rat) (d : Decimal) : Bool :=
  nearestBinary d.toRat == q

/-- The count of places of the grid number `i`, from one that is coarser than `q`. -/
def gridPlaces (q : Rat) (i : Nat) : Int :=
  i - (Nat.toDigits 10 (q.num.toNat / q.den)).length

/-- The grids that are tried for `q`: up to those on which the finest binary fraction has 17
digits. -/
def gridCount (q : Rat) : Nat :=
  (Nat.toDigits 10 (q.num.toNat / q.den)).length + 341

/-- The decimal on the grid number `i` that reads back as `q`. -/
def onGrid? (q : Rat) (i : Nat) : Option Decimal :=
  (neighbours q (gridPlaces q i)).find? (readsBack q)

/-- The decimal with the fewest places that reads back as `q`, for `q > 0`. -/
def shortest (q : Rat) : Option Decimal :=
  (List.range (gridCount q)).findSome? (onGrid? q)

/-- What a search over `0, …, n - 1` finds is found at the first place where there is anything. -/
theorem exists_first_of_findSome?_range {α : Type} {f : Nat → Option α} {n : Nat} {a : α}
    (h : (List.range n).findSome? f = some a) : ∃ i, f i = some a ∧ ∀ j < i, f j = none := by
  obtain ⟨before, i, after, hsplit, hi, hbefore⟩ := List.findSome?_eq_some_iff.1 h
  have get (j : Nat) (hj : j ≤ before.length) : (before ++ i :: after)[j]? = some j := by
    rw [← hsplit, List.getElem?_range]
    have := congrArg List.length hsplit
    simp at this
    omega
  have hlength : i = before.length := by simpa using get before.length (Nat.le_refl _)
  refine ⟨i, hi, fun j hj => hbefore j ?_⟩
  have := get j (by omega)
  rw [List.getElem?_append_left (by omega)] at this
  exact List.mem_of_getElem? this

theorem nearestBinary_of_shortest {q : Rat} {d : Decimal} (h : shortest q = some d) :
    nearestBinary d.toRat = q := by
  obtain ⟨_, _, hi⟩ := List.exists_of_findSome?_eq_some h
  simpa [readsBack] using List.find?_some hi

/-- On a grid before the one that gives the answer, neither neighbour reads back. -/
theorem not_readsBack_of_coarser {q : Rat} {d : Decimal} (h : shortest q = some d) :
    ∃ i, d ∈ neighbours q (gridPlaces q i) ∧
      ∀ j < i, ∀ c ∈ neighbours q (gridPlaces q j), readsBack q c = false := by
  obtain ⟨i, hi, hbefore⟩ := exists_first_of_findSome?_range h
  refine ⟨i, List.mem_of_find?_eq_some hi, fun j hj c hc => ?_⟩
  simpa using List.find?_eq_none.1 (hbefore j hj) c hc

/-! ### Text -/

/-- The digits `ds` of a positive number with `point` of them (or of the zeros around them) in
front of the point, with at least one digit on either side. -/
def positional (ds : List Char) (point : Int) : List Char :=
  if point ≤ 0 then '0' :: '.' :: List.replicate (-point).toNat '0' ++ ds
  else if ds.length ≤ point then
    ds ++ List.replicate (point - ds.length).toNat '0' ++ ['.', '0']
  else ds.take point.toNat ++ '.' :: ds.drop point.toNat

/-- The digits `ds` of a positive number in scientific notation: a point after the first digit if
more follow, then a signed exponent of at least two digits. -/
def scientific (ds : List Char) (exponent : Int) : List Char :=
  let mantissa := match ds with
    | [] => ['0']
    | [d] => [d]
    | d :: rest => d :: '.' :: rest
  let size := Nat.toDigits 10 exponent.natAbs
  mantissa ++ 'e' :: (if exponent < 0 then '-' else '+') :: (if size.length < 2 then ['0'] else [])
    ++ size

/-- The text of `d`, for `d > 0`, without superfluous digits: positional from `10 ^ -4` up to below
`10 ^ 16`, and scientific outside. -/
def text (d : Decimal) : List Char :=
  let written := Nat.toDigits 10 d.digits
  let point : Int := written.length - d.places
  let ds := (written.reverse.dropWhile (· == '0')).reverse
  if -4 ≤ point - 1 ∧ point - 1 < 16 then positional ds point else scientific ds (point - 1)

/-- The shortest text that reads back as the binary fraction `q`. Zero is `0.0`. -/
def textOf (q : Rat) : String :=
  if q.num = 0 then "0.0" else
    let size := if q.num < 0 then -q else q
    let body := (shortest size).elim [] text
    String.ofList (if q.num < 0 then '-' :: body else body)

end Decimal

end ExtraMetas

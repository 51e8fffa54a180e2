import QuicRelay.Handler
import Mathlib.Data.List.GetD
import Mathlib.Algebra.Group.Nat.Basic

/-!
The round-robin pick that `route.next` and `StaticHandler.OnConnect` share:

    idx := counter.Add(1) - 1
    backend := backends[idx % uint64(len(backends))]

The counter is an `atomic.Uint64`, so `Add` wraps modulo `2^64`; `slots` lists
the positions a run of picks reads, wraparound included, and `pickN_eq` says
that `K` picks from counter `c` return the backends at `slots len c K` and leave
the counter at `c + K`. An empty backend list makes the remainder panic
(`pick_nil`): the constructors must never build one.
-/

namespace QuicRelay

/-- `idx % uint64(len(backends))`. A Go `len` is an `int`, below `2^63`, so the
conversion is exact and the remainder is that of the naturals; a zero length
panics as Go's integer division does. -/
def modLen (idx : UInt64) (len : Nat) : Except Panic Nat :=
  if len = 0 then .error .integerDivideByZero else .ok (idx.toNat % len)

/-- `backends[idx % uint64(len(backends))]`. -/
def select (backends : List String) (idx : UInt64) : Except Panic String := do
  let i ← modLen idx backends.length
  index backends i

/-- One pick from counter `counter`: the backend, and the counter after `Add(1)`. -/
def pick (backends : List String) (counter : UInt64) : Except Panic (String × UInt64) := do
  let counter' := counter + 1
  let b ← select backends (counter' - 1)
  return (b, counter')

/-- `route`: the backends of one SNI and its round-robin counter. -/
structure Route where
  backends : List String
  counter : UInt64
deriving DecidableEq, Repr

/-- `route.next`. -/
def Route.next (r : Route) : Except Panic (String × Route) := do
  let (b, c) ← pick r.backends r.counter
  return (b, { r with counter := c })

/-- `uint64` addition, as naturals. -/
theorem toNat_add_wrap (a b : UInt64) : (a + b).toNat = (a.toNat + b.toNat) % 2 ^ 64 := rfl

theorem toNat_ofNat_wrap (n : Nat) : (UInt64.ofNat n).toNat = n % 2 ^ 64 := rfl

theorem toNat_one : (1 : UInt64).toNat = 1 := rfl

@[simp] theorem add_one_sub_one (c : UInt64) : c + 1 - 1 = c := by
  apply UInt64.eq_of_toBitVec_eq
  simp [UInt64.sub_def, UInt64.add_def, BitVec.add_sub_cancel]

theorem pick_nil (c : UInt64) : pick [] c = .error .integerDivideByZero := rfl

/-- A non-empty list is read at position `idx % len`. -/
theorem select_of_ne_nil {backends : List String} (ne : backends ≠ []) (idx : UInt64) :
    select backends idx = .ok (backends.getD (idx.toNat % backends.length) "") := by
  have pos : 0 < backends.length := List.length_pos.mpr ne
  have lt : idx.toNat % backends.length < backends.length := Nat.mod_lt _ pos
  simp [select, modLen, Nat.pos_iff_ne_zero.mp pos, index_of_lt lt, bind, Except.bind,
    List.getElem?_eq_getElem lt]

/-- A non-empty list is picked at position `counter % len`, and the counter
moves on by one. -/
theorem pick_of_ne_nil {backends : List String} (ne : backends ≠ []) (c : UInt64) :
    pick backends c = .ok (backends.getD (c.toNat % backends.length) "", c + 1) := by
  simp [pick, select_of_ne_nil ne, bind, Except.bind, pure, Except.pure]

theorem Route.next_of_ne_nil {r : Route} (ne : r.backends ≠ []) :
    r.next = .ok (r.backends.getD (r.counter.toNat % r.backends.length) "",
      { r with counter := r.counter + 1 }) := by
  simp [Route.next, pick_of_ne_nil ne, bind, Except.bind, pure, Except.pure]

/-! ### Runs of picks -/

/-- The positions `idx % len` that `K` consecutive picks from counter `c` read. -/
def slots (len : Nat) (c : UInt64) : Nat → List Nat
  | 0 => []
  | K + 1 => (c.toNat % len) :: slots len (c + 1) K

/-- `K` consecutive picks from counter `c`: the backends and the final counter. -/
def pickN (backends : List String) : Nat → UInt64 → Except Panic (List String × UInt64)
  | 0, c => .ok ([], c)
  | K + 1, c => do
    let (b, c') ← pick backends c
    let (bs, c'') ← pickN backends K c'
    return (b :: bs, c'')

/-- `K` picks from counter `c` return the backends at `slots len c K`; the
counter ends at `c + K`, modulo `2^64`. -/
theorem pickN_eq {backends : List String} (ne : backends ≠ []) :
    ∀ (K : Nat) (c : UInt64), pickN backends K c =
      .ok ((slots backends.length c K).map (backends.getD · ""), c + UInt64.ofNat K)
  | 0, c => by
    have zero : c + 0 = c := UInt64.toNat.inj (by
      rw [toNat_add_wrap, UInt64.toNat_zero, Nat.add_zero]
      exact Nat.mod_eq_of_lt (UInt64.toNat_lt_size c))
    simp [pickN, slots, zero]
  | K + 1, c => by
    have step : c + 1 + UInt64.ofNat K = c + UInt64.ofNat (K + 1) := UInt64.toNat.inj (by
      simp only [toNat_add_wrap, toNat_ofNat_wrap, toNat_one]; omega)
    simp [pickN, slots, pick_of_ne_nil ne, pickN_eq ne K (c + 1), bind, Except.bind, pure,
      Except.pure, step]

/-- The `j`-th pick of a run from `c` reads counter value `(c + j) % 2^64`. -/
theorem slots_eq_map (len : Nat) :
    ∀ (c : UInt64) (K : Nat),
      slots len c K = (List.range K).map (fun j => (c.toNat + j) % 2 ^ 64 % len)
  | c, 0 => rfl
  | c, K + 1 => by
    have lt : c.toNat < 2 ^ 64 := UInt64.toNat_lt_size c
    rw [slots, slots_eq_map len (c + 1) K, List.range_succ_eq_map, List.map_cons, List.map_map]
    congr 1
    · rw [Nat.add_zero, Nat.mod_eq_of_lt lt]
    · apply List.map_congr_left
      intro j _
      simp only [Function.comp, toNat_add_wrap, Nat.succ_eq_add_one]
      congr 1
      show ((c.toNat + 1 % 2 ^ 64) % 2 ^ 64 + j) % 2 ^ 64 = (c.toNat + (j + 1)) % 2 ^ 64
      omega

end QuicRelay

import QuicRelay.Router.RoundRobin
import Mathlib.Data.List.Nodup

/-!
Round-robin fairness (spec P4): how often each backend position is picked by a
run of consecutive picks.

`hits len p a K` counts the `j < K` with `(a + j) % len = p`, the picks of
position `p` by an unbounded counter starting at `a`. Every window of `len`
consecutive values holds each position once (`hits_period`), so a run of `K`
picks holds each position `⌊K/len⌋` or `⌊K/len⌋ + 1` times (`hits_bounds`).

The `uint64` counter agrees with the unbounded one while the run does not cross
`2^64`, and always when `len` divides `2^64` (`slots_eq_window`). A run that
crosses the wraparound restarts the positions at `0`: with three backends the
picks from counter `2^64 - 1` are positions `0, 0` (`pickN_across_wraparound`).
A run that crosses it once is the join of two balanced runs, off by at most two.
-/

namespace QuicRelay

/-- The picks of position `p` among `K` picks by an unbounded counter from `a`. -/
def hits (len p a K : Nat) : Nat :=
  ((List.range K).map (fun j => (a + j) % len)).count p

theorem hits_add (len p a K L : Nat) :
    hits len p a (K + L) = hits len p a K + hits len p (a + K) L := by
  simp only [hits, List.range_add, List.map_append, List.map_map, List.count_append]
  congr 3
  funext j
  simp only [Function.comp, Nat.add_assoc]

theorem hits_shift (len p a K : Nat) : hits len p (a + len) K = hits len p a K := by
  simp only [hits]
  congr 2
  funext j
  rw [Nat.add_right_comm, Nat.add_mod_right]

/-- A window of `len` consecutive counter values picks every position once. -/
theorem hits_period {len p : Nat} (hp : p < len) : ∀ a, hits len p a len = 1
  | 0 => by
    have ident : (List.range len).map (fun j => (0 + j) % len) = List.range len := by
      conv => rhs; rw [← List.map_id (List.range len)]
      apply List.map_congr_left
      intro j mem
      rw [Nat.zero_add, Nat.mod_eq_of_lt (List.mem_range.mp mem), id]
    rw [hits, ident]
    exact List.count_eq_one_of_mem (List.nodup_range len) (List.mem_range.mpr hp)
  | a + 1 => by
    have front := hits_add len p a 1 len
    have back := hits_add len p a len 1
    rw [hits_shift, Nat.add_comm len 1] at back
    have ih := hits_period hp a
    omega

theorem hits_le_one {len p : Nat} (hp : p < len) (a : Nat) {K : Nat} (short : K ≤ len) :
    hits len p a K ≤ 1 := by
  have split := hits_add len p a K (len - K)
  rw [Nat.add_sub_cancel' short, hits_period hp] at split
  omega

theorem hits_periods {len p : Nat} (hp : p < len) (a r : Nat) :
    ∀ q, hits len p a (q * len + r) = q + hits len p (a + q * len) r
  | 0 => by simp
  | q + 1 => by
    have peel := hits_add len p a len (q * len + r)
    rw [hits_period hp, hits_periods hp (a + len) r q] at peel
    rw [show (q + 1) * len + r = len + (q * len + r) by rw [Nat.succ_mul]; omega, peel,
      show a + len + q * len = a + (q + 1) * len by rw [Nat.succ_mul]; omega]
    omega

/-- A run of `K` picks holds every position `⌊K/len⌋` or `⌊K/len⌋ + 1` times. -/
theorem hits_bounds {len p : Nat} (hp : p < len) (a K : Nat) :
    K / len ≤ hits len p a K ∧ hits len p a K ≤ K / len + 1 := by
  have pos : 0 < len := Nat.lt_of_le_of_lt (Nat.zero_le p) hp
  have periods := hits_periods hp a (K % len) (K / len)
  have rest := hits_le_one hp (a + K / len * len) (Nat.le_of_lt (Nat.mod_lt K pos))
  rw [Nat.div_add_mod' K len] at periods
  omega

theorem hits_balanced {len p q : Nat} (hp : p < len) (hq : q < len) (a K : Nat) :
    hits len p a K ≤ hits len q a K + 1 := by
  have bp := hits_bounds hp a K
  have bq := hits_bounds hq a K
  omega

/-! ### The `uint64` counter -/

/-- While a run does not cross `2^64`, or when `len` divides `2^64`, the
`uint64` counter picks what the unbounded one picks. -/
theorem slots_eq_window {len : Nat} (c : UInt64) (K : Nat)
    (window : c.toNat + K ≤ 2 ^ 64 ∨ len ∣ 2 ^ 64) :
    slots len c K = (List.range K).map (fun j => (c.toNat + j) % len) := by
  rw [slots_eq_map]
  apply List.map_congr_left
  intro j mem
  cases window with
  | inl short =>
    have : c.toNat + j < 2 ^ 64 := by have := List.mem_range.mp mem; omega
    rw [Nat.mod_eq_of_lt this]
  | inr dvd => exact Nat.mod_mod_of_dvd _ dvd

/-- A run crossing `2^64` once: the picks before the wraparound, then a run from
counter `0`. -/
theorem slots_across {len p : Nat} (c : UInt64) {m : Nat} (once : m ≤ 2 ^ 64) :
    (slots len c (2 ^ 64 - c.toNat + m)).count p =
      hits len p c.toNat (2 ^ 64 - c.toNat) + hits len p 0 m := by
  have lt : c.toNat < 2 ^ 64 := UInt64.toNat_lt_size c
  have before : ∀ j ∈ List.range (2 ^ 64 - c.toNat),
      (c.toNat + j) % 2 ^ 64 % len = (c.toNat + j) % len := by
    intro j mem
    have : c.toNat + j < 2 ^ 64 := by have := List.mem_range.mp mem; omega
    rw [Nat.mod_eq_of_lt this]
  have after : ∀ j ∈ List.range m,
      (c.toNat + (2 ^ 64 - c.toNat + j)) % 2 ^ 64 % len = (0 + j) % len := by
    intro j mem
    have : j < 2 ^ 64 := by have := List.mem_range.mp mem; omega
    rw [show c.toNat + (2 ^ 64 - c.toNat + j) = j + 2 ^ 64 by omega, Nat.add_mod_right,
      Nat.mod_eq_of_lt this, Nat.zero_add]
  unfold hits
  rw [slots_eq_map, List.range_add, List.map_append, List.count_append, List.map_map,
    List.map_congr_left before]
  simp only [Function.comp_def]
  rw [List.map_congr_left after]

/-- Round-robin fairness of `K` consecutive picks from any counter value `c`:
the picks are the backends at `slots`, and two positions are picked equally
often up to one while the run does not cross the `2^64` wraparound or the
number of backends divides `2^64`, and up to two for a run of at most `2^64`
picks. -/
theorem pickN_fair {backends : List String} (ne : backends ≠ []) (c : UInt64) (K : Nat)
    {p q : Nat} (hp : p < backends.length) (hq : q < backends.length) :
    pickN backends K c =
        .ok ((slots backends.length c K).map (backends.getD · ""), c + UInt64.ofNat K) ∧
      ((c.toNat + K ≤ 2 ^ 64 ∨ backends.length ∣ 2 ^ 64) →
        (slots backends.length c K).count p ≤ (slots backends.length c K).count q + 1) ∧
      (K ≤ 2 ^ 64 →
        (slots backends.length c K).count p ≤ (slots backends.length c K).count q + 2) := by
  have unwrapped : c.toNat + K ≤ 2 ^ 64 ∨ backends.length ∣ 2 ^ 64 →
      (slots backends.length c K).count p ≤ (slots backends.length c K).count q + 1 := by
    intro window
    rw [slots_eq_window c K window]
    exact hits_balanced hp hq c.toNat K
  refine ⟨pickN_eq ne K c, unwrapped, fun once => ?_⟩
  cases Nat.lt_or_ge (2 ^ 64) (c.toNat + K) with
  | inl crosses =>
    have lt : c.toNat < 2 ^ 64 := UInt64.toNat_lt_size c
    have split : K = 2 ^ 64 - c.toNat + (c.toNat + K - 2 ^ 64) := by omega
    rw [split, slots_across c (by omega), slots_across c (by omega)]
    have before := hits_balanced hp hq c.toNat (2 ^ 64 - c.toNat)
    have after := hits_balanced hp hq 0 (c.toNat + K - 2 ^ 64)
    omega
  | inr short => exact Nat.le_succ_of_le (unwrapped (.inl short))

/-- Two backends, three picks from counter `0`. -/
theorem pickN_fair_two_backends :
    (["b1", "b2"] : List String) ≠ [] ∧ 0 < 2 ∧ 1 < 2 ∧
      (pickN ["b1", "b2"] 3 0 =
          .ok ((slots 2 0 3).map (["b1", "b2"].getD · ""), 0 + UInt64.ofNat 3) ∧
        ((UInt64.toNat 0 + 3 ≤ 2 ^ 64 ∨ 2 ∣ 2 ^ 64) →
          (slots 2 0 3).count 0 ≤ (slots 2 0 3).count 1 + 1) ∧
        (3 ≤ 2 ^ 64 → (slots 2 0 3).count 0 ≤ (slots 2 0 3).count 1 + 2)) :=
  ⟨by decide, by decide, by decide, pickN_fair (by decide) 0 3 (by decide) (by decide)⟩

/-- Three backends, counter `2^64 - 1`: the two picks across the wraparound both
take the first backend and never the second. -/
theorem pickN_across_wraparound :
    pickN ["b1", "b2", "b3"] 2 18446744073709551615 = .ok (["b1", "b1"], 1) := by
  rfl

end QuicRelay

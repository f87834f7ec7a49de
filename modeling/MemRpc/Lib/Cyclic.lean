import Mathlib.Tactic

/-!
# Free-running 32-bit cursors

A producer and a consumer number their operations with natural numbers but store
only the residue modulo `2 ^ 32`. The first group of lemmas recovers the true
distance of two such cursors from the wrapped subtraction; it needs only that
the distance is below `2 ^ 32`.

A ring buffer stores item `n` in slot `n % 2 ^ 32 % cap`. As long as the cursor
has not wrapped, or when `cap` divides `2 ^ 32`, that slot is `n % cap` and any
`cap` consecutive items occupy distinct slots: this is `NoAlias`. At the wrap of
a capacity that does not divide `2 ^ 32` two items of one window share a slot.
-/

namespace Concurrency.Cyclic

/-- The wrapped difference of two cursors is their true distance. -/
theorem toNat_ofNat_sub {a b : ℕ} (h : b ≤ a) (hlt : a - b < 2 ^ 32) :
    (UInt32.ofNat a - UInt32.ofNat b).toNat = a - b := by
  rw [UInt32.toNat_sub, UInt32.toNat_ofNat', UInt32.toNat_ofNat']
  omega

/-- Cursors at a distance below `2 ^ 32` agree only when the counts agree. -/
theorem ofNat_eq_ofNat_iff {a b : ℕ} (h : b ≤ a) (hlt : a - b < 2 ^ 32) :
    UInt32.ofNat a = UInt32.ofNat b ↔ a = b := by
  constructor
  · intro he
    have hdist := toNat_ofNat_sub h hlt
    rw [he, UInt32.sub_self] at hdist
    have hzero : (0 : UInt32).toNat = 0 := rfl
    omega
  · rintro rfl
    rfl

theorem ofNat_succ (n : ℕ) : UInt32.ofNat (n + 1) = UInt32.ofNat n + 1 :=
  UInt32.ofNat_add n 1

/-- The slot that the wrapped cursor `n` selects in a ring of `cap` slots. -/
def slot (cap n : ℕ) : ℕ := n % 2 ^ 32 % cap

theorem toNat_ofNat_mod (c : UInt32) (n : ℕ) :
    (UInt32.ofNat n % c).toNat = slot c.toNat n := by
  rw [UInt32.toNat_mod, UInt32.toNat_ofNat', slot]

/-- Items below `bound` are stored as if the cursor never wrapped. -/
def NoAlias (cap bound : ℕ) : Prop := cap ∣ 2 ^ 32 ∨ bound ≤ 2 ^ 32

instance (cap bound : ℕ) : Decidable (NoAlias cap bound) := inferInstanceAs (Decidable (_ ∨ _))

theorem NoAlias.slot_eq {cap bound n : ℕ} (h : NoAlias cap bound) (hn : n < bound) :
    slot cap n = n % cap := by
  rcases h with hdvd | hle
  · exact Nat.mod_mod_of_dvd n hdvd
  · rw [slot, Nat.mod_eq_of_lt (hn.trans_le hle)]

/-- Two items of one window of `cap` items never share a residue. -/
theorem mod_ne_mod {cap i j : ℕ} (hij : i < j) (hwin : j < i + cap) : i % cap ≠ j % cap := by
  intro he
  have hdvd : cap ∣ j - i := (Nat.modEq_iff_dvd' hij.le).mp he
  have hle := Nat.le_of_dvd (by omega) hdvd
  omega

/-- Without aliasing, the items of one window occupy distinct slots. -/
theorem NoAlias.slot_ne {cap bound i j : ℕ} (h : NoAlias cap bound) (hj : j < bound)
    (hij : i < j) (hwin : j < i + cap) : slot cap i ≠ slot cap j := by
  rw [h.slot_eq (hij.trans hj), h.slot_eq hj]
  exact mod_ne_mod hij hwin

/-- A capacity that does not divide `2 ^ 32` reuses the slot of the last item
before the wrap already `2 ^ 32 % cap` items later, inside the same window. -/
theorem slot_wrap_eq {cap : ℕ} (hcap : 0 < cap) (hndvd : ¬ cap ∣ 2 ^ 32) :
    slot cap (2 ^ 32 - 1 + 2 ^ 32 % cap) = slot cap (2 ^ 32 - 1) := by
  have hpos : 0 < 2 ^ 32 % cap :=
    Nat.pos_of_ne_zero fun h => hndvd (Nat.dvd_of_mod_eq_zero h)
  have hrlt : 2 ^ 32 % cap < cap := Nat.mod_lt _ hcap
  have hrle : 2 ^ 32 % cap ≤ 2 ^ 32 := Nat.mod_le _ _
  generalize hr : 2 ^ 32 % cap = r at hpos hrlt hrle ⊢
  have hlow : (2 ^ 32 - 1 + r) % 2 ^ 32 = r - 1 := by omega
  have hhigh : (2 ^ 32 - 1) % 2 ^ 32 = 2 ^ 32 - 1 := Nat.mod_eq_of_lt (by omega)
  have hdiv : 2 ^ 32 - 1 = cap * (2 ^ 32 / cap) + (r - 1) := by
    have := Nat.div_add_mod (2 ^ 32) cap
    omega
  rw [slot, slot, hlow, hhigh, hdiv, Nat.mul_add_mod, Nat.mod_eq_of_lt (by omega)]

end Concurrency.Cyclic

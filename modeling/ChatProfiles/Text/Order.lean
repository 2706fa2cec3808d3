import ChatProfiles.Text.Basic
/-!
# The order of texts

Texts are ordered by their first difference in code points, a text before all
its proper continuations.  The order is linear: `order_eq_eq`, `order_swap` and
`order_lt_trans` are all that the rest of the library uses of it.
-/
namespace ChatProfiles.Text

def order : Text → Text → Ordering
  | [], [] => .eq
  | [], _ :: _ => .lt
  | _ :: _, [] => .gt
  | a :: as, b :: bs => (compare a.toNat b.toNat).then (order as bs)

theorem order_eq_eq {a b : Text} : order a b = .eq ↔ a = b := by
  induction a generalizing b with
  | nil => cases b <;> simp [order]
  | cons c r ih =>
    cases b with
    | nil => simp [order]
    | cons d s =>
      simp only [order, Ordering.then_eq_eq, Nat.compare_eq_eq, ih, List.cons.injEq, Char.toNat_inj]

theorem order_swap (a b : Text) : (order a b).swap = order b a := by
  induction a generalizing b with
  | nil => cases b <;> rfl
  | cons c r ih =>
    cases b with
    | nil => rfl
    | cons d s => simp only [order, Ordering.swap_then, ih, Nat.compare_swap]

theorem order_cons_lt {c d : Char} {r s : Text} :
    order (c :: r) (d :: s) = .lt ↔ c.toNat < d.toNat ∨ c = d ∧ order r s = .lt := by
  simp only [order, Ordering.then_eq_lt, Nat.compare_eq_lt, Nat.compare_eq_eq, Char.toNat_inj]

theorem order_lt_trans {a b c : Text} (h : order a b = .lt) (k : order b c = .lt) :
    order a c = .lt := by
  induction a generalizing b c with
  | nil =>
    cases b with
    | nil => simp [order] at h
    | cons d s => cases c with
      | nil => simp [order] at k
      | cons e t => rfl
  | cons x r ih =>
    cases b with
    | nil => simp [order] at h
    | cons y s => cases c with
      | nil => simp [order] at k
      | cons z t =>
        rw [order_cons_lt] at *
        rcases h with h | ⟨rfl, h⟩ <;> rcases k with k | ⟨rfl, k⟩
        · exact .inl (by omega)
        · exact .inl h
        · exact .inl k
        · exact .inr ⟨rfl, ih h k⟩

end ChatProfiles.Text

/-!
Lists whose items are found by a key, in order of first arrival.

Putting an item whose key is already there replaces that item in place; any other item goes to
the end. Objects, parameter lists and route trees all grow this way.
-/

namespace ApiTypes.Keyed

variable {α κ : Type} [DecidableEq κ]

def put (key : α → κ) (x : α) : List α → List α
  | [] => [x]
  | y :: ys => if key y = key x then x :: ys else y :: put key x ys

/-- The items put one after another, starting from none. -/
def gather (key : α → κ) (xs : List α) : List α :=
  xs.foldl (fun kept x => put key x kept) []

@[simp] theorem put_nil (key : α → κ) (x : α) : put key x [] = [x] := rfl

theorem put_cons_eq {key : α → κ} {x y : α} (h : key y = key x) (ys : List α) :
    put key x (y :: ys) = x :: ys := by
  simp [put, h]

theorem put_cons_ne {key : α → κ} {x y : α} (h : key y ≠ key x) (ys : List α) :
    put key x (y :: ys) = y :: put key x ys := by
  simp [put, h]

theorem put_of_not_mem {key : α → κ} {x : α} :
    ∀ {ys : List α}, key x ∉ ys.map key → put key x ys = ys ++ [x]
  | [], _ => rfl
  | y :: ys, h => by
    have hy : key y ≠ key x := fun e => h (by simp [e])
    have hys : key x ∉ ys.map key := fun m => h (by simp [List.mem_map.mp m])
    rw [put_cons_ne hy, put_of_not_mem hys, List.cons_append]

/-- Replacing in place leaves the keys as they are. -/
theorem map_put_of_mem {key : α → κ} {x : α} :
    ∀ {ys : List α}, key x ∈ ys.map key → (put key x ys).map key = ys.map key
  | y :: ys, h => by
    by_cases hy : key y = key x
    · rw [put_cons_eq hy]
      simp [hy]
    · rw [put_cons_ne hy, List.map_cons, List.map_cons]
      rw [List.map_cons, List.mem_cons] at h
      rw [map_put_of_mem (h.resolve_left (Ne.symm hy))]

end ApiTypes.Keyed

import Mathlib

/-! Properties of datasets that are inherited from the datasets above. -/

namespace zfs

variable {C V : Type}

/-- The value for the components of a name in reverse. -/
def inherited (values : List C → Option V) : List C → Option V
  | [] => values []
  | c :: parent => (values (c :: parent).reverse).or (inherited values parent)

/-- `zfs get` of a property with these local values -/
def get_value (values : List C → Option V) (path : List C) : Option V := inherited values path.reverse

section update

variable [DecidableEq C]

/-- `zfs set` -/
def set_value (values : List C → Option V) (path : List C) (value : V) : List C → Option V :=
  Function.update values path (some value)

/-- `zfs inherit` -/
def clear_value (values : List C → Option V) (path : List C) : List C → Option V :=
  Function.update values path none

@[simp] theorem set_value_self (values : List C → Option V) (path : List C) (value : V) :
    set_value values path value path = some value := Function.update_self _ _ _

theorem set_value_of_ne (values : List C → Option V) {path path' : List C} (value : V) (hpath : path' ≠ path) :
    set_value values path value path' = values path' := Function.update_of_ne hpath _ _

theorem clear_value_of_ne (values : List C → Option V) {path path' : List C} (hpath : path' ≠ path) :
    clear_value values path path' = values path' := Function.update_of_ne hpath _ _

end update

/-- A dataset where an inherited value is set locally keeps its value, and so do those below it. -/
theorem get_value_of_kept {values values' : List C → Option V}
    (hkept : ∀ path, values' path = values path ∨ values' path = get_value values path) (path : List C) :
    get_value values' path = get_value values path := by
  have hinherited : ∀ names, inherited values' names = inherited values names := by
    intro names
    induction names with
    | nil => exact (hkept []).elim id id
    | cons c parent ih =>
      rw [inherited, ih, inherited]
      rcases hkept (c :: parent).reverse with hlocal | hlocal
      · rw [hlocal]
      · rw [hlocal, get_value, List.reverse_reverse, inherited]
        cases values (c :: parent).reverse <;> cases inherited values parent <;> rfl
  exact hinherited _

end zfs

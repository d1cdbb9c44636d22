import Mathlib
import Esdc.Lib.Text

/-! Documents whose texts, wherever they stand, are changed by one function. -/

namespace json

open text

/-- A document; `L` are the values that hold no text. -/
inductive Json (L : Type)
  | leaf (value : L)
  | str (cs : Text)
  | array (items : List (Json L))
  | object (members : List (Text × Json L))

namespace Json

variable {L : Type}

mutual

/-- The function applied to every text, those of the keys included. -/
def map (f : Text → Text) : Json L → Json L
  | leaf value => leaf value
  | str cs => str (f cs)
  | array items => array (map_items f items)
  | object members => object (map_members f members)
termination_by structural j => j

def map_items (f : Text → Text) : List (Json L) → List (Json L)
  | [] => []
  | item :: items => map f item :: map_items f items
termination_by structural items => items

def map_members (f : Text → Text) : List (Text × Json L) → List (Text × Json L)
  | [] => []
  | member :: members => map_member f member :: map_members f members
termination_by structural members => members

def map_member (f : Text → Text) : Text × Json L → Text × Json L
  | (key, value) => (f key, map f value)
termination_by structural member => member

end

mutual

/-- All texts of a document, from left to right. -/
def texts : Json L → List Text
  | leaf _ => []
  | str cs => [cs]
  | array items => items_texts items
  | object members => members_texts members
termination_by structural j => j

def items_texts : List (Json L) → List Text
  | [] => []
  | item :: items => texts item ++ items_texts items
termination_by structural items => items

def members_texts : List (Text × Json L) → List Text
  | [] => []
  | member :: members => member_texts member ++ members_texts members
termination_by structural members => members

def member_texts : Text × Json L → List Text
  | (key, value) => key :: texts value
termination_by structural member => member

end

variable {f : Text → Text}

mutual

/-- A function changes a document if and only if it changes one of its texts. -/
theorem map_eq_self_iff : (j : Json L) → (j.map f = j ↔ ∀ cs ∈ j.texts, f cs = cs)
  | leaf value => by
    rw [map, texts]
    exact ⟨fun _ _ hcs => absurd hcs List.not_mem_nil, fun _ => rfl⟩
  | str cs => by
    rw [map, texts, List.forall_mem_singleton]
    exact ⟨Json.str.inj, congrArg Json.str⟩
  | array items => by
    rw [map, texts, ← map_items_eq_self_iff items]
    exact ⟨Json.array.inj, congrArg Json.array⟩
  | object members => by
    rw [map, texts, ← map_members_eq_self_iff members]
    exact ⟨Json.object.inj, congrArg Json.object⟩
termination_by structural j => j

theorem map_items_eq_self_iff :
    (items : List (Json L)) → (map_items f items = items ↔ ∀ cs ∈ items_texts items, f cs = cs)
  | [] => by
    rw [map_items, items_texts]
    exact ⟨fun _ _ hcs => absurd hcs List.not_mem_nil, fun _ => rfl⟩
  | item :: items => by
    rw [map_items, items_texts, List.forall_mem_append, ← map_eq_self_iff item, ← map_items_eq_self_iff items,
      List.cons.injEq]
termination_by structural items => items

theorem map_members_eq_self_iff :
    (members : List (Text × Json L)) → (map_members f members = members ↔ ∀ cs ∈ members_texts members, f cs = cs)
  | [] => by
    rw [map_members, members_texts]
    exact ⟨fun _ _ hcs => absurd hcs List.not_mem_nil, fun _ => rfl⟩
  | member :: members => by
    rw [map_members, members_texts, List.forall_mem_append, ← map_member_eq_self_iff member,
      ← map_members_eq_self_iff members, List.cons.injEq]
termination_by structural members => members

theorem map_member_eq_self_iff :
    (member : Text × Json L) → (map_member f member = member ↔ ∀ cs ∈ member_texts member, f cs = cs)
  | (key, value) => by
    rw [map_member, member_texts, List.forall_mem_cons, ← map_eq_self_iff value, Prod.mk.injEq]
termination_by structural member => member

end

end Json

end json

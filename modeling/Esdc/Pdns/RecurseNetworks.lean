import Mathlib
import Esdc.Lib.Dict

namespace pdns.models

/-- A row of `recurse_networks`; the two columns are indexed, but not unique. -/
structure Entry where
  subnet : String
  net_name : String
  change_date : ℕ
  deriving DecidableEq

/-- The table, with the sequence its primary keys come from. -/
structure RecurseNetworks where
  rows : Dict ℕ Entry
  next_id : ℕ
  fresh : ∀ id entry, rows.lookup id = some entry → id < next_id

inductive Error
  | DoesNotExist
  | MultipleObjectsReturned
  deriving DecidableEq

namespace RecurseNetworks

def empty : RecurseNetworks := ⟨∅, 1, fun _ _ hlookup => by cases hlookup⟩

/-- A keyword argument counts only when it is true. -/
def get_entries (table : RecurseNetworks) (id : Option ℕ) (subnet net_name : Option String) : Dict ℕ Entry :=
  table.rows.filter fun key entry => (id.filter (· ≠ 0)).all (key = ·) &&
    (subnet.filter (· ≠ "")).all (entry.subnet = ·) && (net_name.filter (· ≠ "")).all (entry.net_name = ·)

def delete_entries (table : RecurseNetworks) (id : Option ℕ) (subnet net_name : Option String) : RecurseNetworks where
  rows := table.rows.delete (table.get_entries id subnet net_name).keys
  next_id := table.next_id
  fresh := by
    intro key entry hlookup
    rw [Dict.lookup_delete] at hlookup
    split at hlookup
    · cases hlookup
    · exact table.fresh key entry hlookup

def add_entry (table : RecurseNetworks) (subnet net_name : String) (epoch : ℕ) : RecurseNetworks where
  rows := table.rows.insert table.next_id ⟨subnet, net_name, epoch⟩
  next_id := table.next_id + 1
  fresh := by
    intro key entry hlookup
    by_cases hkey : key = table.next_id
    · omega
    · rw [AList.lookup_insert_ne hkey] at hlookup
      exact Nat.lt_succ_of_lt (table.fresh key entry hlookup)

/-- `objects.get(subnet=subnet, net_name=net_name)` -/
def get (table : RecurseNetworks) (subnet net_name : String) : Except Error ℕ :=
  match (table.rows.filter fun _ entry => entry.subnet = subnet && entry.net_name = net_name).keys with
  | [] => .error .DoesNotExist
  | [id] => .ok id
  | _ => .error .MultipleObjectsReturned

def update_entry (table : RecurseNetworks) (id : ℕ) (new_subnet new_net_name : String) (epoch : ℕ) :
    Except Error RecurseNetworks :=
  match hrow : table.rows.lookup id with
  | none => .error .DoesNotExist
  | some _ => .ok {
      rows := table.rows.insert id ⟨new_subnet, new_net_name, epoch⟩
      next_id := table.next_id
      fresh := by
        intro key entry hlookup
        by_cases hkey : key = id
        · exact hkey ▸ table.fresh id _ hrow
        · rw [AList.lookup_insert_ne hkey] at hlookup
          exact table.fresh key entry hlookup }

def add_or_update_entry (table : RecurseNetworks) (subnet net_name : String) (epoch : ℕ) : Except Error RecurseNetworks :=
  match table.get subnet net_name with
  | .error .DoesNotExist => .ok (table.add_entry subnet net_name epoch)
  | .error error => .error error
  | .ok id => table.update_entry id subnet net_name epoch

/-- What `add_or_update_entry` looks an entry up by. -/
def pair (table : RecurseNetworks) (id : ℕ) : Option (String × String) :=
  (table.rows.lookup id).map fun entry => (entry.subnet, entry.net_name)

/-- There is an entry for the CIDR under the name. -/
def Has (table : RecurseNetworks) (subnet net_name : String) : Prop := ∃ id, table.pair id = some (subnet, net_name)

/-- No two entries have the same CIDR and the same name. -/
def Distinct (table : RecurseNetworks) : Prop :=
  ∀ id id' p, table.pair id = some p → table.pair id' = some p → id = id'

theorem not_has_empty (subnet net_name : String) : ¬ empty.Has subnet net_name := by
  rintro ⟨_, hpair⟩
  cases hpair

theorem distinct_empty : empty.Distinct := by
  intro _ _ _ hpair
  cases hpair

section pairs

variable {table : RecurseNetworks}

theorem pair_next_id : table.pair table.next_id = none := by
  unfold pair
  cases hlookup : table.rows.lookup table.next_id with
  | none => rfl
  | some entry => exact absurd (table.fresh _ _ hlookup) (lt_irrefl _)

theorem add_entry_pair (subnet net_name : String) (epoch id : ℕ) :
    (table.add_entry subnet net_name epoch).pair id =
      if id = table.next_id then some (subnet, net_name) else table.pair id := by
  unfold add_entry pair
  by_cases hid : id = table.next_id
  · rw [if_pos hid, hid, AList.lookup_insert]
    rfl
  · rw [if_neg hid, AList.lookup_insert_ne hid]

/-- An entry that already has the pair is written as it was. -/
theorem update_entry_of_pair {id : ℕ} {subnet net_name : String} (epoch : ℕ)
    (hpair : table.pair id = some (subnet, net_name)) :
    ∃ table', table.update_entry id subnet net_name epoch = .ok table' ∧ table'.pair = table.pair := by
  unfold update_entry
  split
  · case h_1 hnone =>
    rw [pair, hnone] at hpair
    cases hpair
  · refine ⟨_, rfl, ?_⟩
    funext id'
    unfold pair at hpair ⊢
    by_cases hid : id' = id
    · rw [hid, AList.lookup_insert, hpair]
      rfl
    · rw [AList.lookup_insert_ne hid]

theorem mem_keys_filter_iff (table : RecurseNetworks) (subnet net_name : String) (id : ℕ) :
    id ∈ (table.rows.filter fun _ entry => entry.subnet = subnet && entry.net_name = net_name).keys ↔
      table.pair id = some (subnet, net_name) := by
  rw [← AList.mem_keys, ← AList.lookup_isSome, Dict.lookup_filter, pair]
  cases table.rows.lookup id with
  | none => simp
  | some entry => by_cases hsubnet : entry.subnet = subnet <;> simp [Option.filter, hsubnet]

/-- What `get` answers when there is at most one entry for a pair. -/
theorem get_cases (hdistinct : table.Distinct) (subnet net_name : String) :
    (table.get subnet net_name = .error .DoesNotExist ∧ ¬ table.Has subnet net_name) ∨
      ∃ id, table.get subnet net_name = .ok id ∧ table.pair id = some (subnet, net_name) := by
  rw [get]
  have hnodup := (table.rows.filter fun _ entry => entry.subnet = subnet && entry.net_name = net_name).keys_nodup
  have hmem := mem_keys_filter_iff table subnet net_name
  revert hnodup hmem
  generalize (table.rows.filter fun _ entry => entry.subnet = subnet && entry.net_name = net_name).keys = keys
  intro hnodup hmem
  match keys with
  | [] =>
    refine Or.inl ⟨rfl, ?_⟩
    rintro ⟨id, hpair⟩
    exact List.not_mem_nil ((hmem id).mpr hpair)
  | [id] => exact Or.inr ⟨id, rfl, (hmem id).mp (List.mem_singleton_self id)⟩
  | id :: id' :: ids =>
    -- two entries with the same pair would be the same
    have hpair := (hmem id).mp List.mem_cons_self
    have hpair' := (hmem id').mp (by simp)
    obtain rfl := hdistinct id id' _ hpair hpair'
    simp at hnodup

/-- The entry is there afterwards, once, and the others are as before. -/
theorem add_or_update_entry_spec (hdistinct : table.Distinct) (subnet net_name : String) (epoch : ℕ) :
    ∃ table', table.add_or_update_entry subnet net_name epoch = .ok table' ∧ table'.Distinct ∧
      ∀ c n, table'.Has c n ↔ table.Has c n ∨ (c = subnet ∧ n = net_name) := by
  unfold add_or_update_entry
  rcases get_cases hdistinct subnet net_name with ⟨hget, hnone⟩ | ⟨id, hget, hpair⟩
  · refine ⟨table.add_entry subnet net_name epoch, by rw [hget], ?_, ?_⟩
    · intro id id' p hpair hpair'
      rw [add_entry_pair] at hpair hpair'
      split at hpair <;> split at hpair'
      · case isTrue.isTrue hid hid' => exact hid.trans hid'.symm
      · cases hpair
        exact absurd ⟨id', hpair'⟩ hnone
      · cases hpair'
        exact absurd ⟨id, hpair⟩ hnone
      · exact hdistinct id id' p hpair hpair'
    · intro c n
      constructor
      · rintro ⟨id, hpair⟩
        rw [add_entry_pair] at hpair
        split at hpair
        · cases hpair
          exact Or.inr ⟨rfl, rfl⟩
        · exact Or.inl ⟨id, hpair⟩
      · rintro (⟨id, hpair⟩ | ⟨rfl, rfl⟩)
        · refine ⟨id, ?_⟩
          have hid : id ≠ table.next_id := by
            rintro rfl
            rw [pair_next_id] at hpair
            cases hpair
          rw [add_entry_pair, if_neg hid, hpair]
        · exact ⟨table.next_id, by rw [add_entry_pair, if_pos rfl]⟩
  · obtain ⟨table', hupdate, heq⟩ := update_entry_of_pair epoch hpair
    refine ⟨table', by rw [hget]; exact hupdate, ?_, ?_⟩
    · unfold Distinct
      rw [heq]
      exact hdistinct
    · intro c n
      unfold Has
      rw [heq]
      constructor
      · exact Or.inl
      · rintro (hhas | ⟨rfl, rfl⟩)
        · exact hhas
        · exact ⟨id, hpair⟩

theorem delete_entries_pair {subnet net_name : String} (hsubnet : subnet ≠ "") (hname : net_name ≠ "") (id : ℕ) :
    (table.delete_entries none (some subnet) (some net_name)).pair id =
      if table.pair id = some (subnet, net_name) then none else table.pair id := by
  have hkeys : id ∈ (table.get_entries none (some subnet) (some net_name)).keys ↔
      table.pair id = some (subnet, net_name) := by
    rw [← mem_keys_filter_iff]
    simp [get_entries, Option.filter, hsubnet, hname]
  rw [delete_entries, pair, Dict.lookup_delete]
  by_cases hpair : table.pair id = some (subnet, net_name)
  · rw [if_pos hpair, if_pos (hkeys.mpr hpair)]
    rfl
  · rw [if_neg hpair, if_neg fun hmem => hpair (hkeys.mp hmem)]
    rfl

/-- The entry of the pair is gone, and the others are as before. -/
theorem delete_entries_spec (hdistinct : table.Distinct) {subnet net_name : String} (hsubnet : subnet ≠ "")
    (hname : net_name ≠ "") :
    (table.delete_entries none (some subnet) (some net_name)).Distinct ∧
      ∀ c n, (table.delete_entries none (some subnet) (some net_name)).Has c n ↔
        table.Has c n ∧ ¬ (c = subnet ∧ n = net_name) := by
  have hpairs : ∀ id p, (table.delete_entries none (some subnet) (some net_name)).pair id = some p ↔
      table.pair id = some p ∧ p ≠ (subnet, net_name) := by
    intro id p
    rw [delete_entries_pair hsubnet hname]
    constructor
    · intro hpair
      split at hpair
      · cases hpair
      · case isFalse hother => exact ⟨hpair, fun heq => hother (heq ▸ hpair)⟩
    · rintro ⟨hpair, hother⟩
      rw [if_neg, hpair]
      rw [hpair]
      exact fun heq => hother (Option.some.inj heq)
  constructor
  · intro id id' p hpair hpair'
    exact hdistinct id id' p ((hpairs id p).mp hpair).1 ((hpairs id' p).mp hpair').1
  · intro c n
    unfold Has
    simp only [hpairs, ne_eq, Prod.mk.injEq, exists_and_right]

end pairs

end RecurseNetworks

end pdns.models

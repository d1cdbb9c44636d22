import Mathlib
import Esdc.Lib.Dict

namespace vms.vnc

/-- The columns of a VM that the choice of a port looks at. -/
structure VmRow (NodeId : Type) where
  node : NodeId
  vnc_port : ℕ
  deriving DecidableEq

inductive Error
  | RuntimeError
  | IntegrityError
  deriving DecidableEq

section search

/-- The loop over `xrange(new_port, 65536)`, which looks for `new_port` in every round. -/
def find_port (has_port : ℕ → Bool) (new_port : ℕ) : List ℕ → Except Error ℕ
  | [] => .error .RuntimeError
  | port :: ports => if has_port new_port then find_port has_port new_port ports else .ok port

/-- `Vm.choose_vnc_port`, with the ports of the other VMs of the node and whether any VM of the node has a port. -/
def choose_vnc_port (other_ports : List ℕ) (has_port : ℕ → Bool) : Except Error ℕ :=
  match other_ports.max? with
  | none => .ok 15901
  | some last =>
    let new_port := last + 1
    let new_port := if new_port ≥ 65535 then 15901 else new_port
    find_port has_port new_port (List.range' new_port (65536 - new_port))

/-- Every round looks for the same port, so the first one decides. -/
theorem find_port_eq (has_port : ℕ → Bool) (new_port port : ℕ) (ports : List ℕ) :
    find_port has_port new_port (port :: ports) = if has_port new_port then .error .RuntimeError else .ok port := by
  by_cases hused : has_port new_port
  · rw [if_pos hused]
    have hrounds : ∀ ports, find_port has_port new_port ports = .error .RuntimeError := by
      intro ports
      induction ports with
      | nil => rfl
      | cons port ports ih => rw [find_port, if_pos hused, ih]
    exact hrounds (port :: ports)
  · rw [find_port, if_neg hused, if_neg hused]

theorem choose_vnc_port_eq {other_ports : List ℕ} {has_port : ℕ → Bool} {last : ℕ} (hlast : other_ports.max? = some last) :
    choose_vnc_port other_ports has_port =
      let new_port := if last < 65534 then last + 1 else 15901
      if has_port new_port then .error .RuntimeError else .ok new_port := by
  have hrange : ∀ new_port ≤ 65535, List.range' new_port (65536 - new_port) =
      new_port :: List.range' (new_port + 1) (65535 - new_port) := by
    intro new_port hle
    rw [show 65536 - new_port = (65535 - new_port) + 1 by omega, List.range'_succ]
  rw [choose_vnc_port, hlast]
  by_cases hroom : last < 65534
  · simp only [hroom, if_true, ge_iff_le, show ¬ 65535 ≤ last + 1 by omega, if_false]
    rw [hrange (last + 1) (by omega), find_port_eq]
  · simp only [hroom, if_false, ge_iff_le, show 65535 ≤ last + 1 by omega, if_true]
    rw [hrange 15901 (by omega), find_port_eq]

end search

variable {VmId NodeId : Type} [DecidableEq VmId] [DecidableEq NodeId]

/-- The table of the VMs with its constraint `unique_together = (('node', 'vnc_port'),)`. -/
structure Table (VmId NodeId : Type) [DecidableEq VmId] where
  rows : Dict VmId (VmRow NodeId)
  unique : ∀ uuid uuid' row, rows.lookup uuid = some row → rows.lookup uuid' = some row → uuid = uuid'

/-- The ports of the other VMs of the node. -/
def Table.other_ports (table : Table VmId NodeId) (uuid : VmId) (node : NodeId) : List ℕ :=
  (table.rows.entries.filter fun e => e.2.node = node && e.1 ≠ uuid).map fun e => e.2.vnc_port

theorem Table.mem_other_ports {table : Table VmId NodeId} {uuid : VmId} {node : NodeId} {port : ℕ} :
    port ∈ table.other_ports uuid node ↔ ∃ other, other ≠ uuid ∧ table.rows.lookup other = some ⟨node, port⟩ := by
  simp only [Table.other_ports, List.mem_map, List.mem_filter, Bool.and_eq_true, decide_eq_true_eq]
  constructor
  · rintro ⟨⟨other, row⟩, ⟨hmem, hnode, hother⟩, rfl⟩
    refine ⟨other, hother, ?_⟩
    rw [← hnode]
    exact AList.mem_lookup_iff.mpr hmem
  · rintro ⟨other, hother, hlookup⟩
    exact ⟨⟨other, ⟨node, port⟩⟩, ⟨AList.mem_lookup_iff.mp hlookup, rfl, hother⟩, rfl⟩

/-- A row whose port no other VM of its node has. -/
def Table.insert (table : Table VmId NodeId) (uuid : VmId) (row : VmRow NodeId)
    (hport : row.vnc_port ∉ table.other_ports uuid row.node) : Table VmId NodeId where
  rows := table.rows.insert uuid row
  unique := by
    have hother : ∀ other, (table.rows.insert uuid row).lookup other = some row → other = uuid := by
      intro other hlookup
      by_contra hne
      rw [AList.lookup_insert_ne hne] at hlookup
      exact hport (Table.mem_other_ports.mpr ⟨other, hne, hlookup⟩)
    intro first second found hfirst hsecond
    by_cases heq : first = uuid
    · subst heq
      rw [AList.lookup_insert] at hfirst
      obtain rfl := Option.some.inj hfirst
      exact (hother second hsecond).symm
    · by_cases heq' : second = uuid
      · subst heq'
        rw [AList.lookup_insert] at hsecond
        obtain rfl := Option.some.inj hsecond
        exact hother first hfirst
      · rw [AList.lookup_insert_ne heq] at hfirst
        rw [AList.lookup_insert_ne heq'] at hsecond
        exact table.unique first second found hfirst hsecond

/-- `Vm.objects.get(node=node, vnc_port=port)` finds a VM, possibly the same one. -/
def Table.has_port (table : Table VmId NodeId) (node : NodeId) (port : ℕ) : Bool :=
  table.rows.entries.any fun e => e.2 = ⟨node, port⟩

def Table.choose_vnc_port (table : Table VmId NodeId) (uuid : VmId) (node : NodeId) : Except Error ℕ :=
  vnc.choose_vnc_port (table.other_ports uuid node) (table.has_port node)

/-- `Vm.save`, as far as the port is concerned; the database checks its constraint. -/
def Table.save (table : Table VmId NodeId) (uuid : VmId) (node : NodeId) (vnc_port : Option ℕ)
    (node_changed keep_vnc_port : Bool) : Except Error (Table VmId NodeId) :=
  let vnc_port := if node_changed && !keep_vnc_port then none else vnc_port
  let chosen := match vnc_port with
    | none => table.choose_vnc_port uuid node
    | some port => .ok port
  chosen.bind fun port =>
    if hport : port ∈ table.other_ports uuid node then .error .IntegrityError
    else .ok (table.insert uuid ⟨node, port⟩ hport)

/-- The ports that `choose_vnc_port` is to choose from. -/
def Table.Free (table : Table VmId NodeId) (uuid : VmId) (node : NodeId) (port : ℕ) : Prop :=
  15901 ≤ port ∧ port ≤ 65535 ∧ port ∉ table.other_ports uuid node

/-- A free port is returned and stored, if there is one. -/
def Table.Chooses (table : Table VmId NodeId) (uuid : VmId) (node : NodeId) : Prop :=
  (∃ port, table.Free uuid node port) → ∃ port table', table.Free uuid node port ∧
    table.choose_vnc_port uuid node = .ok port ∧ table.save uuid node none false false = .ok table' ∧
      table'.rows.lookup uuid = some ⟨node, port⟩

/-- The port after the highest one is free, or the first port once the range is used up. -/
def Table.NextFree (table : Table VmId NodeId) (uuid : VmId) (node : NodeId) : Prop :=
  match (table.other_ports uuid node).max? with
  | none => True
  | some last =>
    if last < 65534 then 15900 ≤ last ∧ table.has_port node (last + 1) = false
    else table.has_port node 15901 = false

theorem Table.has_port_of_mem {table : Table VmId NodeId} {uuid : VmId} {node : NodeId} {port : ℕ}
    (hport : port ∈ table.other_ports uuid node) : table.has_port node port = true := by
  obtain ⟨other, -, hlookup⟩ := Table.mem_other_ports.mp hport
  apply List.any_eq_true.mpr
  exact ⟨⟨other, ⟨node, port⟩⟩, AList.mem_lookup_iff.mp hlookup, decide_eq_true rfl⟩

/-- A chosen port that is free is stored. -/
theorem Table.save_of_choose {table : Table VmId NodeId} {uuid : VmId} {node : NodeId} {port : ℕ}
    (hchoose : table.choose_vnc_port uuid node = .ok port) (hfree : table.Free uuid node port) :
    ∃ table', table.save uuid node none false false = .ok table' ∧
      table'.rows.lookup uuid = some ⟨node, port⟩ := by
  refine ⟨table.insert uuid ⟨node, port⟩ hfree.2.2, ?_, AList.lookup_insert _⟩
  simp only [Table.save, Bool.false_and, Bool.false_eq_true, if_false, hchoose]
  exact dif_neg hfree.2.2

/-- The choice meets its purpose exactly when the one port it looks for can be used,
or when there is no free port at all. -/
theorem Table.chooses_iff (table : Table VmId NodeId) (uuid : VmId) (node : NodeId) :
    table.Chooses uuid node ↔ (¬ ∃ port, table.Free uuid node port) ∨ table.NextFree uuid node := by
  constructor
  · intro hchooses
    by_cases hexists : ∃ port, table.Free uuid node port
    · right
      obtain ⟨port, -, hfree, hchoose, -⟩ := hchooses hexists
      unfold Table.NextFree
      cases hlast : (table.other_ports uuid node).max? with
      | none => trivial
      | some last =>
        rw [Table.choose_vnc_port, choose_vnc_port_eq hlast] at hchoose
        by_cases hroom : last < 65534
        · simp only [hroom, if_true] at hchoose ⊢
          by_cases hused : table.has_port node (last + 1)
          · rw [if_pos hused] at hchoose
            cases hchoose
          · rw [if_neg hused] at hchoose
            obtain rfl := Except.ok.inj hchoose
            have hrange := hfree.1
            exact ⟨by omega, Bool.eq_false_iff.mpr hused⟩
        · simp only [hroom, if_false] at hchoose ⊢
          by_cases hused : table.has_port node 15901
          · rw [if_pos hused] at hchoose
            cases hchoose
          · exact Bool.eq_false_iff.mpr hused
    · exact Or.inl hexists
  · rintro (hnone | hnext) hexists
    · exact absurd hexists hnone
    · obtain ⟨port, hchoose, hfree⟩ : ∃ port, table.choose_vnc_port uuid node = .ok port ∧
          table.Free uuid node port := by
        unfold Table.NextFree at hnext
        cases hlast : (table.other_ports uuid node).max? with
        | none =>
          have hempty : table.other_ports uuid node = [] := List.max?_eq_none_iff.mp hlast
          refine ⟨15901, ?_, by omega, by omega, ?_⟩
          · rw [Table.choose_vnc_port, vnc.choose_vnc_port, hlast]
          · rw [hempty]
            exact List.not_mem_nil
        | some last =>
          rw [hlast] at hnext
          rw [Table.choose_vnc_port, choose_vnc_port_eq hlast]
          by_cases hroom : last < 65534
          · simp only [hroom, if_true] at hnext ⊢
            rw [hnext.2]
            refine ⟨last + 1, rfl, by omega, by omega, fun hmem => ?_⟩
            rw [Table.has_port_of_mem hmem] at hnext
            cases hnext.2
          · simp only [hroom, if_false] at hnext ⊢
            rw [hnext]
            refine ⟨15901, rfl, by omega, by omega, fun hmem => ?_⟩
            rw [Table.has_port_of_mem hmem] at hnext
            cases hnext
      obtain ⟨table', hsave, hlookup⟩ := Table.save_of_choose hchoose hfree
      exact ⟨port, table', hfree, hchoose, hsave, hlookup⟩

/-- The last and the first port of the range are used: the search ends with an error. -/
theorem not_chooses : ¬ ∀ (table : Table ℕ ℕ) uuid node, table.Chooses uuid node := by
  intro hclaim
  let empty : Table ℕ ℕ := ⟨∅, fun _ _ _ hlookup => by cases hlookup⟩
  let table := (empty.insert 1 ⟨0, 65535⟩ (by decide +kernel)).insert 2 ⟨0, 15901⟩ (by decide +kernel)
  obtain ⟨port, -, -, hchoose, -⟩ := hclaim table 0 0 ⟨15902, by omega, by omega, by decide +kernel⟩
  have herror : table.choose_vnc_port 0 0 = .error .RuntimeError := by
    rw [Table.choose_vnc_port, choose_vnc_port_eq (show (table.other_ports 0 0).max? = some 65535 by decide +kernel)]
    decide +kernel
  rw [herror] at hchoose
  cases hchoose

end vms.vnc

import Mathlib
import Esdc.Lib.Transition
import Esdc.Pdns.RecurseNetworks

namespace vms.subnet

open transition
open pdns.models (RecurseNetworks)

section ipaddress

structure IPv4Network where
  network_address : BitVec 32
  prefixlen : ℕ
  deriving DecidableEq

def netmask_of (prefixlen : ℕ) : BitVec 32 := BitVec.allOnes 32 <<< (32 - prefixlen)

/-- Ones followed by zeros. -/
def prefix_from_ip_int (ip_int : BitVec 32) : Option ℕ :=
  (List.range 33).find? fun prefixlen => ip_int = netmask_of prefixlen

/-- A mask that is no netmask may still be a hostmask. -/
def make_netmask (netmask : BitVec 32) : Option ℕ := (prefix_from_ip_int netmask).or (prefix_from_ip_int (~~~netmask))

/-- `ipaddress.ip_network`; a network with host bits set is a `ValueError`. -/
def ip_network (netaddr netmask : BitVec 32) : Option IPv4Network :=
  (make_netmask netmask).bind fun prefixlen =>
    if netaddr &&& netmask_of prefixlen = netaddr then some ⟨netaddr, prefixlen⟩ else none

def octet (address : BitVec 32) (shift : ℕ) : String := toString ((address >>> shift).toNat % 256)

def IPv4Network.str (net : IPv4Network) : String :=
  octet net.network_address 24 ++ "." ++ octet net.network_address 16 ++ "." ++ octet net.network_address 8 ++ "." ++
    octet net.network_address 0 ++ "/" ++ toString net.prefixlen

theorem IPv4Network.str_ne_empty (net : IPv4Network) : net.str ≠ "" := by
  intro hempty
  have hlength := congrArg String.length hempty
  simp only [IPv4Network.str, String.length_append] at hlength
  have hslash : ("/" : String).length = 1 := rfl
  have hnothing : ("" : String).length = 0 := rfl
  omega

end ipaddress

/-- What a saved subnet has passed: the checks of the name, the network and the netmask. -/
structure Subnet where
  name : String
  network : BitVec 32
  netmask : BitVec 32
  named : 3 ≤ name.length ∧ name.length ≤ 32
  valid : (ip_network network netmask).isSome

def Subnet.ip_network (net : Subnet) : IPv4Network := (subnet.ip_network net.network net.netmask).get net.valid

def Subnet.cidr (net : Subnet) : String := net.ip_network.str

theorem Subnet.name_ne_empty (net : Subnet) : net.name ≠ "" := by
  intro hempty
  have hnamed := net.named.1
  rw [hempty] at hnamed
  have hnothing : ("" : String).length = 0 := rfl
  omega

variable {Uuid : Type} [DecidableEq Uuid]

/-- The subnets, whose names are unique, and the table of the recursor. -/
structure State (Uuid : Type) [DecidableEq Uuid] where
  subnets : Dict Uuid Subnet
  names : ∀ uuid uuid' net net', subnets.lookup uuid = some net → subnets.lookup uuid' = some net' →
    net.name = net'.name → uuid = uuid'
  recurse : RecurseNetworks

/-- Another subnet has the name. -/
def name_taken (subnets : Dict Uuid Subnet) (uuid : Uuid) (name : String) : Bool :=
  subnets.entries.any fun e => e.1 ≠ uuid && e.2.name = name

theorem not_name_taken {subnets : Dict Uuid Subnet} {uuid : Uuid} {name : String}
    (hfree : name_taken subnets uuid name = false) {other : Uuid} {net : Subnet}
    (hlookup : subnets.lookup other = some net) (hname : net.name = name) : other = uuid := by
  by_contra hother
  have hall := List.any_eq_false.mp hfree ⟨other, net⟩ (AList.mem_lookup_iff.mp hlookup)
  simp [hother, hname] at hall

def post_save_subnet (recurse : RecurseNetworks) (instance_ : Subnet) (epoch : ℕ) :
    Except pdns.models.Error RecurseNetworks :=
  recurse.add_or_update_entry instance_.cidr instance_.name epoch

def post_delete_subnet (recurse : RecurseNetworks) (instance_ : Subnet) : RecurseNetworks :=
  recurse.delete_entries none (some instance_.cidr) (some instance_.name)

/-- A row is written and its handler called; the row stays when the handler fails. -/
def State.save (s : State Uuid) (uuid : Uuid) (net : Subnet) (epoch : ℕ)
    (hfree : name_taken s.subnets uuid net.name = false) : State Uuid where
  subnets := s.subnets.insert uuid net
  names := by
    intro first second found found' hfirst hsecond hname
    by_cases heq : first = uuid
    · by_cases heq' : second = uuid
      · exact heq.trans heq'.symm
      · rw [heq, AList.lookup_insert] at hfirst
        rw [AList.lookup_insert_ne heq'] at hsecond
        obtain rfl := Option.some.inj hfirst
        exact absurd (not_name_taken hfree hsecond hname.symm) heq'
    · rw [AList.lookup_insert_ne heq] at hfirst
      by_cases heq' : second = uuid
      · rw [heq', AList.lookup_insert] at hsecond
        obtain rfl := Option.some.inj hsecond
        exact absurd (not_name_taken hfree hfirst hname) heq
      · rw [AList.lookup_insert_ne heq'] at hsecond
        exact s.names first second found found' hfirst hsecond hname
  recurse :=
    match post_save_subnet s.recurse net epoch with
    | .ok recurse => recurse
    | .error _ => s.recurse

def State.delete (s : State Uuid) (uuid : Uuid) (net : Subnet) : State Uuid where
  subnets := s.subnets.erase uuid
  names := by
    intro first second found found' hfirst hsecond hname
    have hkept : ∀ {other : Uuid} {row : Subnet}, (s.subnets.erase uuid).lookup other = some row →
        s.subnets.lookup other = some row := by
      intro other row hlookup
      by_cases hother : other = uuid
      · rw [hother, AList.lookup_erase] at hlookup
        cases hlookup
      · rwa [AList.lookup_erase_ne hother] at hlookup
    exact s.names first second found found' (hkept hfirst) (hkept hsecond) hname
  recurse := post_delete_subnet s.recurse net

/-- A subnet is created or changed by a save; the epoch is that of the request. -/
inductive Op (Uuid : Type)
  | save (uuid : Uuid) (net : Subnet) (epoch : ℕ)
  | delete (uuid : Uuid)

/-- A name that another subnet has is an `IntegrityError`, a missing subnet a 404. -/
def step (s : State Uuid) : Op Uuid → Option (State Uuid)
  | .save uuid net epoch =>
    if hfree : name_taken s.subnets uuid net.name = false then some (s.save uuid net epoch hfree) else none
  | .delete uuid => (s.subnets.lookup uuid).map fun net => s.delete uuid net

/-- No subnet, and no entry. -/
def State.empty : State Uuid where
  subnets := ∅
  names := fun _ _ _ _ hlookup => by cases hlookup
  recurse := .empty

/-- The migration that creates the table of the recursor. -/
def sync_recurse_subnets (nets : List Subnet) (epoch : ℕ) (recurse : RecurseNetworks) :
    Except pdns.models.Error RecurseNetworks :=
  nets.foldlM (fun recurse net => recurse.add_or_update_entry net.cidr net.name epoch) recurse

/-- A CIDR of an existing subnet. -/
def State.Used (s : State Uuid) (cidr : String) : Prop := ∃ uuid net, s.subnets.lookup uuid = some net ∧ net.cidr = cidr

/-- The CIDRs in the table of the recursor are those of the subnets. -/
def State.Mirrors (s : State Uuid) : Prop := ∀ cidr, (∃ name, s.recurse.Has cidr name) ↔ s.Used cidr

/-- Every subnet has its own entry, and only one. -/
structure State.Recorded (s : State Uuid) : Prop where
  distinct : s.recurse.Distinct
  recorded : ∀ uuid net, s.subnets.lookup uuid = some net → s.recurse.Has net.cidr net.name

/-- Another subnet has the CIDR of the subnet too. -/
def State.Shared (s : State Uuid) (uuid : Uuid) (cidr : String) : Prop :=
  ∃ other net, other ≠ uuid ∧ s.subnets.lookup other = some net ∧ net.cidr = cidr

/-- A change keeps the CIDR, and a deleted subnet was never renamed while it had the CIDR that it
leaves, unless another subnet has the CIDR too. -/
def Keeps (s : State Uuid) : Op Uuid → Prop
  | .save uuid net _ => ∀ old, s.subnets.lookup uuid = some old → net.cidr = old.cidr ∨ s.Shared uuid old.cidr
  | .delete uuid => ∀ old, s.subnets.lookup uuid = some old →
    s.Shared uuid old.cidr ∨ ∀ name, s.recurse.Has old.cidr name → name = old.name

section save

variable {s : State Uuid} {uuid : Uuid} {net : Subnet} (epoch : ℕ) (hfree : name_taken s.subnets uuid net.name = false)

/-- The handler does not fail, and adds the pair of the saved subnet. -/
theorem save_recurse (hrecorded : s.Recorded) : (s.save uuid net epoch hfree).recurse.Distinct ∧
    ∀ c n, (s.save uuid net epoch hfree).recurse.Has c n ↔ s.recurse.Has c n ∨ (c = net.cidr ∧ n = net.name) := by
  obtain ⟨recurse, hok, hdistinct, hhas⟩ :=
    RecurseNetworks.add_or_update_entry_spec hrecorded.distinct net.cidr net.name epoch
  have hrecurse : (s.save uuid net epoch hfree).recurse = recurse := by
    simp only [State.save, post_save_subnet, hok]
  rw [hrecurse]
  exact ⟨hdistinct, hhas⟩

theorem save_lookup (other : Uuid) : (s.save uuid net epoch hfree).subnets.lookup other =
    if other = uuid then some net else s.subnets.lookup other := by
  change (s.subnets.insert uuid net).lookup other = _
  by_cases hother : other = uuid
  · rw [if_pos hother, hother, AList.lookup_insert]
  · rw [if_neg hother, AList.lookup_insert_ne hother]

theorem save_recorded (hrecorded : s.Recorded) : (s.save uuid net epoch hfree).Recorded := by
  obtain ⟨hdistinct, hhas⟩ := save_recurse epoch hfree hrecorded
  refine ⟨hdistinct, fun other row hlookup => ?_⟩
  rw [save_lookup] at hlookup
  rw [hhas]
  split at hlookup
  · obtain rfl := Option.some.inj hlookup
    exact Or.inr ⟨rfl, rfl⟩
  · exact Or.inl (hrecorded.recorded other row hlookup)

/-- What a save does to the CIDRs in use: that of the subnet is, and its former one may not be any more. -/
theorem save_used (cidr : String) : (s.save uuid net epoch hfree).Used cidr ↔ cidr = net.cidr ∨ s.Shared uuid cidr := by
  constructor
  · rintro ⟨other, row, hlookup, rfl⟩
    rw [save_lookup] at hlookup
    split at hlookup
    · obtain rfl := Option.some.inj hlookup
      exact Or.inl rfl
    · case isFalse hother => exact Or.inr ⟨other, row, hother, hlookup, rfl⟩
  · rintro (rfl | ⟨other, row, hother, hlookup, rfl⟩)
    · exact ⟨uuid, net, by rw [save_lookup, if_pos rfl], rfl⟩
    · exact ⟨other, row, by rw [save_lookup, if_neg hother, hlookup], rfl⟩

theorem save_mirrors_iff (hrecorded : s.Recorded) (hmirrors : s.Mirrors) :
    (s.save uuid net epoch hfree).Mirrors ↔ Keeps s (.save uuid net epoch) := by
  have hhas := (save_recurse epoch hfree hrecorded).2
  have hentries : ∀ cidr, (∃ name, (s.save uuid net epoch hfree).recurse.Has cidr name) ↔ s.Used cidr ∨ cidr = net.cidr := by
    intro cidr
    rw [← hmirrors cidr]
    simp only [hhas, exists_or, exists_and_left, exists_eq, and_true]
  unfold State.Mirrors
  simp only [hentries, save_used epoch hfree]
  constructor
  · intro hsame old hold
    rcases (hsame old.cidr).mp (Or.inl ⟨uuid, old, hold, rfl⟩) with heq | hshared
    · exact Or.inl heq.symm
    · exact Or.inr hshared
  · intro hkeeps cidr
    constructor
    · rintro (⟨other, row, hlookup, rfl⟩ | rfl)
      · by_cases hother : other = uuid
        · subst hother
          rcases hkeeps row hlookup with heq | hshared
          · exact Or.inl heq.symm
          · exact Or.inr hshared
        · exact Or.inr ⟨other, row, hother, hlookup, rfl⟩
      · exact Or.inl rfl
    · rintro (rfl | ⟨other, row, _, hlookup, rfl⟩)
      · exact Or.inr rfl
      · exact Or.inl ⟨other, row, hlookup, rfl⟩

end save

section delete

variable {s : State Uuid} {uuid : Uuid} {net : Subnet}

theorem delete_recurse (uuid : Uuid) (net : Subnet) (hrecorded : s.Recorded) : (s.delete uuid net).recurse.Distinct ∧
    ∀ c n, (s.delete uuid net).recurse.Has c n ↔ s.recurse.Has c n ∧ ¬ (c = net.cidr ∧ n = net.name) :=
  RecurseNetworks.delete_entries_spec hrecorded.distinct net.ip_network.str_ne_empty net.name_ne_empty

theorem delete_lookup {other : Uuid} {row : Subnet} :
    (s.delete uuid net).subnets.lookup other = some row ↔ other ≠ uuid ∧ s.subnets.lookup other = some row := by
  change (s.subnets.erase uuid).lookup other = _ ↔ _
  by_cases hother : other = uuid
  · rw [hother, AList.lookup_erase]
    simp
  · rw [AList.lookup_erase_ne hother]
    simp [hother]

theorem delete_recorded (hrecorded : s.Recorded) (hnet : s.subnets.lookup uuid = some net) :
    (s.delete uuid net).Recorded := by
  obtain ⟨hdistinct, hhas⟩ := delete_recurse uuid net hrecorded
  refine ⟨hdistinct, fun other row hlookup => ?_⟩
  obtain ⟨hother, hlookup⟩ := delete_lookup.mp hlookup
  rw [hhas]
  exact ⟨hrecorded.recorded other row hlookup, fun heq => hother (s.names other uuid row net hlookup hnet heq.2)⟩

theorem delete_used (cidr : String) : (s.delete uuid net).Used cidr ↔ s.Shared uuid cidr := by
  constructor
  · rintro ⟨other, row, hlookup, hcidr⟩
    obtain ⟨hother, hlookup⟩ := delete_lookup.mp hlookup
    exact ⟨other, row, hother, hlookup, hcidr⟩
  · rintro ⟨other, row, hother, hlookup, hcidr⟩
    exact ⟨other, row, delete_lookup.mpr ⟨hother, hlookup⟩, hcidr⟩

theorem delete_mirrors_iff (hrecorded : s.Recorded) (hmirrors : s.Mirrors) (hnet : s.subnets.lookup uuid = some net) :
    (s.delete uuid net).Mirrors ↔ Keeps s (.delete uuid) := by
  have hhas := (delete_recurse uuid net hrecorded).2
  unfold State.Mirrors
  simp only [hhas, delete_used]
  constructor
  · intro hsame old hold
    obtain rfl := Option.some.inj (hnet.symm.trans hold)
    by_cases hshared : s.Shared uuid net.cidr
    · exact Or.inl hshared
    · refine Or.inr fun name hname => ?_
      by_contra hother
      exact hshared ((hsame net.cidr).mp ⟨name, hname, fun heq => hother heq.2⟩)
  · intro hkeeps cidr
    constructor
    · rintro ⟨name, hname, hother⟩
      obtain ⟨other, row, hlookup, rfl⟩ := (hmirrors cidr).mp ⟨name, hname⟩
      by_cases heq : other = uuid
      · subst heq
        obtain rfl := Option.some.inj (hnet.symm.trans hlookup)
        rcases hkeeps net hnet with hshared | honly
        · exact hshared
        · exact absurd ⟨rfl, honly name hname⟩ hother
      · exact ⟨other, row, heq, hlookup, rfl⟩
    · rintro ⟨other, row, hother, hlookup, rfl⟩
      refine ⟨row.name, hrecorded.recorded other row hlookup, fun heq => ?_⟩
      exact hother (s.names other uuid row net hlookup hnet heq.2)

end delete

section runs

/-- Every operation records the subnet it saves, and leaves the entries of the others. -/
theorem recorded_step {s u : State Uuid} {e : Op Uuid} (hrecorded : s.Recorded) (hstep : step s e = some u) :
    u.Recorded := by
  cases e with
  | save uuid net epoch =>
    simp only [step] at hstep
    split at hstep
    · obtain rfl := Option.some.inj hstep
      exact save_recorded epoch _ hrecorded
    · cases hstep
  | delete uuid =>
    obtain ⟨net, hnet, rfl⟩ := Option.map_eq_some_iff.mp hstep
    exact delete_recorded hrecorded hnet

theorem mirrors_step {s u : State Uuid} {e : Op Uuid} (hrecorded : s.Recorded) (hmirrors : s.Mirrors)
    (hstep : step s e = some u) : u.Mirrors ↔ Keeps s e := by
  cases e with
  | save uuid net epoch =>
    simp only [step] at hstep
    split at hstep
    · obtain rfl := Option.some.inj hstep
      exact save_mirrors_iff epoch _ hrecorded hmirrors
    · cases hstep
  | delete uuid =>
    obtain ⟨net, hnet, rfl⟩ := Option.map_eq_some_iff.mp hstep
    exact delete_mirrors_iff hrecorded hmirrors hnet

/-- The entries that the migration adds to those that are there. -/
theorem sync_has {nets : List Subnet} {epoch : ℕ} {table table' : RecurseNetworks} (hdistinct : table.Distinct)
    (hsync : sync_recurse_subnets nets epoch table = .ok table') :
    table'.Distinct ∧ ∀ c n, table'.Has c n ↔ table.Has c n ∨ ∃ net ∈ nets, net.cidr = c ∧ net.name = n := by
  induction nets generalizing table with
  | nil =>
    obtain rfl : table = table' := Except.ok.inj hsync
    exact ⟨hdistinct, by simp⟩
  | cons net nets ih =>
    obtain ⟨table'', hok, hdistinct', hhas⟩ :=
      RecurseNetworks.add_or_update_entry_spec hdistinct net.cidr net.name epoch
    rw [sync_recurse_subnets, List.foldlM_cons, hok] at hsync
    obtain ⟨hdistinct'', hhas'⟩ := ih hdistinct' hsync
    refine ⟨hdistinct'', fun c n => ?_⟩
    rw [hhas', hhas, or_assoc, List.exists_mem_cons_iff]
    simp only [eq_comm]

/-- After the migration the entries are those of the subnets. -/
theorem sync_mirrors {s : State Uuid} {epoch : ℕ}
    (hsync : sync_recurse_subnets (s.subnets.entries.map fun e => e.2) epoch .empty = .ok s.recurse) :
    s.Recorded ∧ s.Mirrors := by
  obtain ⟨hdistinct, hhas⟩ := sync_has RecurseNetworks.distinct_empty hsync
  have hpairs : ∀ c n, s.recurse.Has c n ↔ ∃ uuid net, s.subnets.lookup uuid = some net ∧ net.cidr = c ∧ net.name = n := by
    intro c n
    rw [hhas]
    constructor
    · rintro (hempty | ⟨net, hmem, hcidr, hname⟩)
      · exact absurd hempty (RecurseNetworks.not_has_empty c n)
      · obtain ⟨⟨uuid, net⟩, hentry, rfl⟩ := List.mem_map.mp hmem
        exact ⟨uuid, net, AList.mem_lookup_iff.mpr hentry, hcidr, hname⟩
    · rintro ⟨uuid, net, hlookup, hcidr, hname⟩
      exact Or.inr ⟨net, List.mem_map.mpr ⟨⟨uuid, net⟩, AList.mem_lookup_iff.mp hlookup, rfl⟩, hcidr, hname⟩
  refine ⟨⟨hdistinct, fun uuid net hlookup => (hpairs _ _).mpr ⟨uuid, net, hlookup, rfl, rfl⟩⟩, fun cidr => ?_⟩
  constructor
  · rintro ⟨name, hname⟩
    obtain ⟨uuid, net, hlookup, hcidr, -⟩ := (hpairs _ _).mp hname
    exact ⟨uuid, net, hlookup, hcidr⟩
  · rintro ⟨uuid, net, hlookup, hcidr⟩
    exact ⟨net.name, (hpairs _ _).mpr ⟨uuid, net, hlookup, hcidr, rfl⟩⟩

/-- From the migration on, the CIDRs are mirrored as long as no operation leaves an entry behind
that nobody needs, and the first one that does breaks the mirror. -/
theorem mirrors_iff_keeps {s : State Uuid} {epoch : ℕ}
    (hsync : sync_recurse_subnets (s.subnets.entries.map fun e => e.2) epoch .empty = .ok s.recurse) :
    ∀ es t, Run step Keeps s es t → t.Mirrors ∧ ∀ e u, step t e = some u → (u.Mirrors ↔ Keeps t e) := by
  intro es t hrun
  have hpreserved : ∀ (s : State Uuid) e u, s.Recorded ∧ s.Mirrors → Keeps s e → step s e = some u →
      u.Recorded ∧ u.Mirrors := fun s e u hinv hkeeps hstep =>
    ⟨recorded_step hinv.1 hstep, (mirrors_step hinv.1 hinv.2 hstep).mpr hkeeps⟩
  obtain ⟨hrecorded, hmirrors⟩ := hrun.invariant hpreserved (sync_mirrors hsync)
  exact ⟨hmirrors, fun e u hstep => mirrors_step hrecorded hmirrors hstep⟩

/-- 10.0.0.0/24 -/
def lan : Subnet := ⟨"lan", 0x0A000000, 0xFFFFFF00, by decide +kernel, by decide +kernel⟩

/-- The same subnet with another address, 10.0.1.0/24. -/
def lan_moved : Subnet := ⟨"lan", 0x0A000100, 0xFFFFFF00, by decide +kernel, by decide +kernel⟩

/-- A subnet is created where there was none. -/
theorem mirrors_lan : ∃ t : State ℕ, Run step Keeps .empty [.save 1 lan 0] t ∧ t.Mirrors := by
  have hfree : name_taken (State.empty : State ℕ).subnets 1 lan.name = false := rfl
  have hstep : step .empty (.save 1 lan 0) = some (State.save .empty 1 lan 0 hfree) := by
    rw [step, dif_pos hfree]
  have hkeeps : Keeps (State.empty : State ℕ) (.save 1 lan 0) := by
    intro old hold
    cases hold
  have hrun := Run.cons hkeeps hstep (.nil _)
  have hsync : sync_recurse_subnets ((State.empty : State ℕ).subnets.entries.map fun e => e.2) 0 .empty =
    .ok (State.empty : State ℕ).recurse := rfl
  exact ⟨_, hrun, (mirrors_iff_keeps hsync _ _ hrun).1⟩

/-- A subnet gets another address, and the entry of the former one stays. -/
theorem not_mirrors_of_moved :
    ¬ ∀ (s : State ℕ) (epoch : ℕ), sync_recurse_subnets (s.subnets.entries.map fun e => e.2) epoch .empty = .ok s.recurse →
      ∀ es t, Run step anyStep s es t → t.Mirrors := by
  intro hclaim
  have hexec : (exec step anyStep (.empty : State ℕ) [.save 1 lan 0, .save 1 lan_moved 1]).any (fun t =>
      t.recurse.pair 1 = some (lan.cidr, "lan") && t.subnets.keys = [1] &&
        (t.subnets.lookup 1).map Subnet.cidr = some lan_moved.cidr) = true := by decide +kernel
  obtain ⟨t, hrun, htest⟩ := Run.exists_of_exec hexec
  simp only [Bool.and_eq_true, decide_eq_true_eq] at htest
  obtain ⟨⟨hpair, hkeys⟩, hmoved⟩ := htest
  obtain ⟨uuid, net, hlookup, hcidr⟩ := (hclaim .empty 0 rfl _ t hrun lan.cidr).mp ⟨"lan", 1, hpair⟩
  have hmem : uuid ∈ t.subnets.keys := AList.mem_keys.mp (AList.lookup_isSome.mp (by rw [hlookup]; rfl))
  rw [hkeys, List.mem_singleton] at hmem
  subst hmem
  rw [hlookup, Option.map_some, hcidr] at hmoved
  exact absurd hmoved (by decide +kernel)

end runs

end vms.subnet

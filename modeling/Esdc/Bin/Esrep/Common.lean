import Mathlib.Data.List.Nodup
import Esdc.Bin.Esrep.Sync
import Esdc.Lib.Transition

namespace eslib.esrep

open Procedure (Triple)

/-- The pair of disks has a common snapshot with the property. -/
def Hosts.Common (hosts : Hosts) (P : Snap → Prop) (disk : Dataset × Dataset) : Prop :=
  ∃ snap, P snap ∧ snap ∈ hosts.src disk.1 ∧ snap ∈ hosts.dst disk.2

/-- Every pair of disks has a common snapshot. -/
def Replicated (vm : Vm) (hosts : Hosts) : Prop := ∀ disk ∈ vm.disks, hosts.Common (fun _ => True) disk

/-- The dataset pair lies below the pair of the stream, in the same place on both sides. -/
def Below (root disk : Dataset × Dataset) : Prop := ∃ ds, disk = (root.1 ++ ds, root.2 ++ ds)

/-- What the initialisation leaves: the disks are different datasets, those of the slave lie
as those of the master, and a delegated dataset was received with an earlier disk. -/
structure Initialised (vm : Vm) : Prop where
  src_nodup : vm.src_disks.Nodup
  dst_nodup : vm.dst_disks.Nodup
  layout : ∀ root ∈ vm.disks, vm._should_be_synced root.1 = true →
    ∀ disk ∈ vm.disks, root.2 <+: disk.2 → Below root disk
  delegated : ∀ before disk after, vm.disks = before ++ disk :: after → vm._should_be_synced disk.1 = false →
    ∃ root ∈ before, vm._should_be_synced root.1 = true ∧ Below root disk

theorem Hosts.Common.imp {hosts : Hosts} {P Q : Snap → Prop} {disk : Dataset × Dataset}
    (h : hosts.Common P disk) (hPQ : ∀ snap, P snap → Q snap) : hosts.Common Q disk := by
  obtain ⟨snap, hP, hsrc, hdst⟩ := h
  exact ⟨snap, hPQ snap hP, hsrc, hdst⟩

section hosts

variable {host host' : Host} {ds ds' : Dataset} {snap old : Snap} {names : List Nat}

theorem mem_of_create (hcreate : host.create_snapshot ds snap = some host') : snap ∈ host' ds := by
  unfold Host.create_snapshot at hcreate
  split at hcreate
  · cases hcreate
  · cases hcreate
    simp

theorem create_keeps (hcreate : host.create_snapshot ds snap = some host') (hold : old ∈ host ds') :
    old ∈ host' ds' := by
  unfold Host.create_snapshot at hcreate
  split at hcreate
  · cases hcreate
  · cases hcreate
    by_cases hds : ds' = ds
    · subst hds
      rw [Function.update_self]
      exact List.mem_append_left _ hold
    · rw [Function.update_of_ne hds]
      exact hold

/-- A snapshot is made only where there is none with its name. -/
theorem name_ne_of_create (hcreate : host.create_snapshot ds snap = some host') (hold : old ∈ host ds) :
    old.name ≠ snap.name := by
  unfold Host.create_snapshot at hcreate
  split at hcreate
  · cases hcreate
  · rename_i hnew
    intro hname
    exact hnew ⟨old, hold, hname⟩

theorem destroy_keeps (hdestroy : host.destroy_snapshots ds names = some host') (hold : old ∈ host ds')
    (hother : ds' = ds → old.name ∉ names) : old ∈ host' ds' := by
  unfold Host.destroy_snapshots at hdestroy
  split at hdestroy
  · cases hdestroy
    by_cases hds : ds' = ds
    · subst hds
      rw [Function.update_self]
      exact List.mem_filter.mpr ⟨hold, decide_eq_true (hother rfl)⟩
    · rw [Function.update_of_ne hds]
      exact hold
  · cases hdestroy

end hosts

section disks

variable {vm : Vm} {disk disk' : Dataset × Dataset}

theorem Initialised.src_inj (hvm : Initialised vm) (hdisk : disk ∈ vm.disks) (hdisk' : disk' ∈ vm.disks)
    (hsrc : disk.1 = disk'.1) : disk = disk' := by
  obtain ⟨i, hi⟩ := List.mem_iff_getElem?.mp hdisk
  obtain ⟨j, hj⟩ := List.mem_iff_getElem?.mp hdisk'
  rw [Vm.disks, List.getElem?_zip_eq_some] at hi hj
  have hij : i = j := by
    apply (List.getElem?_inj (List.getElem?_eq_some_iff.mp hi.1).1 hvm.src_nodup).mp
    rw [hi.1, hj.1, hsrc]
  subst hij
  have hdst : disk.2 = disk'.2 := Option.some_inj.mp (hi.2.symm.trans hj.2)
  exact Prod.ext hsrc hdst

theorem Initialised.dst_inj (hvm : Initialised vm) (hdisk : disk ∈ vm.disks) (hdisk' : disk' ∈ vm.disks)
    (hdst : disk.2 = disk'.2) : disk = disk' := by
  obtain ⟨i, hi⟩ := List.mem_iff_getElem?.mp hdisk
  obtain ⟨j, hj⟩ := List.mem_iff_getElem?.mp hdisk'
  rw [Vm.disks, List.getElem?_zip_eq_some] at hi hj
  have hij : i = j := by
    apply (List.getElem?_inj (List.getElem?_eq_some_iff.mp hi.2).1 hvm.dst_nodup).mp
    rw [hi.2, hj.2, hdst]
  subst hij
  have hsrc : disk.1 = disk'.1 := Option.some_inj.mp (hi.1.symm.trans hj.1)
  exact Prod.ext hsrc hdst

/-- A stream keeps what every pair of disks has in common. -/
theorem common_send_recv (hvm : Initialised vm) (zfs : Zfs) (n : Nat) {stream : Stream} {hosts : Hosts}
    {P : Snap → Prop} (hroot : (stream.src, stream.dst) ∈ vm.disks)
    (hsynced : vm._should_be_synced stream.src = true) (hdisk : disk ∈ vm.disks) (h : hosts.Common P disk) :
    ({ hosts with dst := (zfs.send_recv n stream hosts.src hosts.dst).2 } : Hosts).Common P disk := by
  obtain ⟨snap, hP, hsrc, hdst⟩ := h
  refine ⟨snap, hP, hsrc, ?_⟩
  change snap ∈ (zfs.send_recv n stream hosts.src hosts.dst).2 disk.2
  by_cases hbelow : stream.dst <+: disk.2
  · obtain ⟨ds, rfl⟩ := hvm.layout _ hroot hsynced _ hdisk hbelow
    exact zfs.kept n stream hosts.src hosts.dst ds snap hsrc hdst
  · rw [zfs.others n stream hosts.src hosts.dst disk.2 hbelow]
    exact hdst

end disks

/-- The replication snapshots made so far: on the disks `done`, not yet on the disks `todo`. -/
structure Creating (new : Nat) (done todo : List DiskPair) (hosts : Hosts) : Prop where
  created : ∀ pair ∈ done, ∃ snap ∈ hosts.src pair.src_disk, snap.name = new
  fresh : ∀ pair ∈ done, new ∉ pair.src_snaps
  old : ∀ pair ∈ done, hosts.Common (·.name ≠ new) pair.disks
  common : ∀ pair ∈ todo, hosts.Common (fun _ => True) pair.disks
  listed : ∀ pair ∈ todo, ∀ name ∈ pair.src_snaps, ∃ snap ∈ hosts.src pair.src_disk, snap.name = name

/-- The disks `done` have the new snapshot on both sides, and so has every dataset below
one of them; the disks `todo` still have an older one. -/
structure Syncing (vm : Vm) (new : Nat) (done todo : List DiskPair) (hosts : Hosts) : Prop where
  created : ∀ pair ∈ todo, ∃ snap ∈ hosts.src pair.src_disk, snap.name = new
  delivered : ∀ pair ∈ done, hosts.Common (·.name = new) pair.disks
  old : ∀ pair ∈ todo, hosts.Common (·.name ≠ new) pair.disks
  below : ∀ pair ∈ todo, ∀ root ∈ done, vm._should_be_synced root.src_disk = true →
    Below root.disks pair.disks → hosts.Common (·.name = new) pair.disks

/-- The pairs have a common snapshot that the cleanup does not remove. -/
def Recoverable (vm : Vm) (rep : Replication) : Prop :=
  ∀ disk ∈ vm.disks, rep.hosts.Common
    (fun snap => ∀ saved ∈ rep.vm_disks_snap, saved.1 = disk.1 → snap.name ≠ saved.2.2) disk

/-- The cleanup is to remove the new snapshot from disks that are not done. -/
def Saved (new : Nat) (todo : List DiskPair) (saved : List (Dataset × Dataset × Nat)) : Prop :=
  ∀ disk ∈ saved, disk.2.2 = new ∧ ∃ pair ∈ todo, disk.1 = pair.src_disk

section invariants

variable {vm : Vm} {new : Nat} {done todo : List DiskPair} {pair : DiskPair} {hosts : Hosts}

theorem Initialised.disks_nodup (hvm : Initialised vm) : vm.disks.Nodup := by
  rw [List.nodup_iff_getElem?_ne_getElem?]
  intro i j hij hj heq
  obtain ⟨disk, hdisk⟩ : ∃ disk, vm.disks[j]? = some disk := ⟨_, List.getElem?_eq_getElem hj⟩
  have hi := heq.trans hdisk
  rw [Vm.disks, List.getElem?_zip_eq_some] at hdisk hi
  have heq := (List.getElem?_inj (List.getElem?_eq_some_iff.mp hi.1).1 hvm.src_nodup).mp (hi.1.trans hdisk.1.symm)
  omega

theorem mem_disks (hsplit : (done ++ todo).map DiskPair.disks = vm.disks) (hpair : pair ∈ done ∨ pair ∈ todo) :
    pair.disks ∈ vm.disks := by
  rw [← hsplit]
  exact List.mem_map_of_mem (List.mem_append.mpr hpair)

/-- A disk that is done is none of the others, on either side. -/
theorem Initialised.disks_ne (hvm : Initialised vm) (hsplit : (done ++ todo).map DiskPair.disks = vm.disks)
    {pair' : DiskPair} (hpair : pair ∈ done) (hpair' : pair' ∈ todo) :
    pair'.src_disk ≠ pair.src_disk ∧ pair'.dst_disk ≠ pair.dst_disk := by
  have hmem := mem_disks hsplit (.inl hpair)
  have hmem' := mem_disks hsplit (.inr hpair')
  have hnodup := hvm.disks_nodup
  rw [← hsplit, List.map_append, List.nodup_append] at hnodup
  have hne := hnodup.2.2 _ (List.mem_map_of_mem hpair) _ (List.mem_map_of_mem hpair')
  constructor
  · intro hsrc
    exact hne (hvm.src_inj hmem hmem' hsrc.symm)
  · intro hdst
    exact hne (hvm.dst_inj hmem hmem' hdst.symm)

theorem Creating.create (h : Creating new done (pair :: todo) hosts) {src : Host}
    (hcreate : hosts.src.create_snapshot pair.src_disk ⟨new, hosts.guid⟩ = some src) (guid : Nat) :
    Creating new (done ++ [pair]) todo { hosts with src, guid } := by
  have hkeeps : ∀ {P : Snap → Prop} {disk : Dataset × Dataset}, hosts.Common P disk →
      ({ hosts with src, guid } : Hosts).Common P disk := by
    rintro P disk ⟨snap, hP, hsrc, hdst⟩
    exact ⟨snap, hP, create_keeps hcreate hsrc, hdst⟩
  constructor
  · intro other hother
    rcases List.mem_append.mp hother with hother | hother
    · obtain ⟨snap, hsnap, hname⟩ := h.created other hother
      exact ⟨snap, create_keeps hcreate hsnap, hname⟩
    · rw [List.mem_singleton] at hother
      subst hother
      exact ⟨_, mem_of_create hcreate, rfl⟩
  · intro other hother hnew
    rcases List.mem_append.mp hother with hother | hother
    · exact h.fresh other hother hnew
    · rw [List.mem_singleton] at hother
      subst hother
      obtain ⟨snap, hsnap, hname⟩ := h.listed other List.mem_cons_self new hnew
      exact name_ne_of_create hcreate hsnap hname
  · intro other hother
    rcases List.mem_append.mp hother with hother | hother
    · exact hkeeps (h.old other hother)
    · rw [List.mem_singleton] at hother
      subst hother
      obtain ⟨snap, _, hsrc, hdst⟩ := h.common other List.mem_cons_self
      exact ⟨snap, name_ne_of_create hcreate hsrc, create_keeps hcreate hsrc, hdst⟩
  · intro other hother
    exact hkeeps (h.common other (List.mem_cons_of_mem _ hother))
  · intro other hother name hname
    obtain ⟨snap, hsnap, heq⟩ := h.listed other (List.mem_cons_of_mem _ hother) name hname
    exact ⟨snap, create_keeps hcreate hsnap, heq⟩

theorem Creating.syncing (h : Creating new done [] hosts) : Syncing vm new [] done hosts where
  created := h.created
  delivered := fun _ hpair => absurd hpair List.not_mem_nil
  old := h.old
  below := fun _ _ _ hroot => absurd hroot List.not_mem_nil

theorem Creating.recoverable (h : Creating new done todo hosts) {rep : Replication}
    (hhosts : rep.hosts = hosts) (hvm : Initialised vm) (hsplit : (done ++ todo).map DiskPair.disks = vm.disks)
    (hsaved : Saved new done rep.vm_disks_snap) : Recoverable vm rep := by
  subst hhosts
  intro disk hdisk
  rw [← hsplit] at hdisk
  obtain ⟨pair, hpair, rfl⟩ := List.mem_map.mp hdisk
  rcases List.mem_append.mp hpair with hpair | hpair
  · apply (h.old pair hpair).imp
    intro snap hname saved hmem _ heq
    exact hname (heq.trans (hsaved saved hmem).1)
  · apply (h.common pair hpair).imp
    intro snap _ saved hmem hsrc _
    obtain ⟨_, other, hother, heq⟩ := hsaved saved hmem
    exact (hvm.disks_ne hsplit hother hpair).1 (hsrc.symm.trans heq)

theorem Syncing.recoverable (h : Syncing vm new done todo hosts) {rep : Replication}
    (hhosts : rep.hosts = hosts) (hvm : Initialised vm) (hsplit : (done ++ todo).map DiskPair.disks = vm.disks)
    (hsaved : Saved new todo rep.vm_disks_snap) : Recoverable vm rep := by
  subst hhosts
  intro disk hdisk
  rw [← hsplit] at hdisk
  obtain ⟨pair, hpair, rfl⟩ := List.mem_map.mp hdisk
  rcases List.mem_append.mp hpair with hpair | hpair
  · apply (h.delivered pair hpair).imp
    intro snap _ saved hmem hsrc _
    obtain ⟨_, other, hother, heq⟩ := hsaved saved hmem
    exact (hvm.disks_ne hsplit hpair hother).1 (heq.symm.trans hsrc)
  · apply (h.old pair hpair).imp
    intro snap hname saved hmem _ heq
    exact hname (heq.trans (hsaved saved hmem).1)

/-- A stream that stops at any point loses nothing. -/
theorem Syncing.send_failed (h : Syncing vm new done todo hosts) (hvm : Initialised vm)
    (hsplit : (done ++ todo).map DiskPair.disks = vm.disks) (zfs : Zfs) (n : Nat) (stream : Stream)
    (hroot : (stream.src, stream.dst) ∈ vm.disks) (hsynced : vm._should_be_synced stream.src = true) :
    Syncing vm new done todo { hosts with dst := (zfs.send_recv n stream hosts.src hosts.dst).2 } where
  created := h.created
  delivered := fun pair hpair =>
    common_send_recv hvm zfs n hroot hsynced (mem_disks hsplit (.inl hpair)) (h.delivered pair hpair)
  old := fun pair hpair => common_send_recv hvm zfs n hroot hsynced (mem_disks hsplit (.inr hpair)) (h.old pair hpair)
  below := fun pair hpair root hmem hroot' hbelow => common_send_recv hvm zfs n hroot hsynced
    (mem_disks hsplit (.inr hpair)) (h.below pair hpair root hmem hroot' hbelow)

/-- A stream that arrives brings the new snapshot to the disk and to what lies below it. -/
theorem Syncing.send_done (h : Syncing vm new done (pair :: todo) hosts) (hvm : Initialised vm)
    (hsplit : (done ++ pair :: todo).map DiskPair.disks = vm.disks) (zfs : Zfs) (n incr : Nat)
    (hsynced : vm._should_be_synced pair.src_disk = true)
    (hdone : (zfs.send_recv n ⟨pair.src_disk, pair.dst_disk, new, incr⟩ hosts.src hosts.dst).1 = true) :
    Syncing vm new (done ++ [pair]) todo
      { hosts with dst := (zfs.send_recv n ⟨pair.src_disk, pair.dst_disk, new, incr⟩ hosts.src hosts.dst).2 } := by
  have hkept := h.send_failed hvm hsplit zfs n ⟨pair.src_disk, pair.dst_disk, new, incr⟩
    (mem_disks hsplit (.inr List.mem_cons_self)) hsynced
  have harrived : ∀ other ∈ pair :: todo, Below pair.disks other.disks →
      ({ hosts with dst := (zfs.send_recv n ⟨pair.src_disk, pair.dst_disk, new, incr⟩ hosts.src hosts.dst).2 } :
        Hosts).Common (·.name = new) other.disks := by
    rintro other hother ⟨ds, hds⟩
    obtain ⟨snap, hsnap, hname⟩ := h.created other hother
    have hsrc : other.src_disk = pair.src_disk ++ ds := congrArg Prod.fst hds
    have hdst : other.dst_disk = pair.dst_disk ++ ds := congrArg Prod.snd hds
    refine ⟨snap, hname, hsnap, ?_⟩
    change snap ∈ (zfs.send_recv n ⟨pair.src_disk, pair.dst_disk, new, incr⟩ hosts.src hosts.dst).2 other.dst_disk
    rw [hsrc] at hsnap
    rw [hdst]
    exact zfs.delivered n ⟨pair.src_disk, pair.dst_disk, new, incr⟩ hosts.src hosts.dst ds snap hdone hsnap hname
  constructor
  · intro other hother
    exact hkept.created other (List.mem_cons_of_mem _ hother)
  · intro other hother
    rcases List.mem_append.mp hother with hother | hother
    · exact hkept.delivered other hother
    · rw [List.mem_singleton] at hother
      subst hother
      exact harrived other List.mem_cons_self ⟨[], by simp⟩
  · intro other hother
    exact hkept.old other (List.mem_cons_of_mem _ hother)
  · intro other hother root hroot hroot_synced hbelow
    rcases List.mem_append.mp hroot with hroot | hroot
    · exact hkept.below other (List.mem_cons_of_mem _ hother) root hroot hroot_synced hbelow
    · rw [List.mem_singleton] at hroot
      subst hroot
      exact harrived other (List.mem_cons_of_mem _ hother) hbelow

/-- A delegated dataset came with the stream of the disk above it. -/
theorem Syncing.delegated (h : Syncing vm new done (pair :: todo) hosts) (hvm : Initialised vm)
    (hsplit : (done ++ pair :: todo).map DiskPair.disks = vm.disks)
    (hsynced : vm._should_be_synced pair.src_disk = false) : Syncing vm new (done ++ [pair]) todo hosts := by
  have hbelow : hosts.Common (·.name = new) pair.disks := by
    have hsplit' : vm.disks = done.map DiskPair.disks ++ pair.disks :: todo.map DiskPair.disks := by
      rw [← hsplit, List.map_append, List.map_cons]
    obtain ⟨_, hmem, hroot_synced, hbelow⟩ := hvm.delegated _ _ _ hsplit' hsynced
    obtain ⟨root, hroot, rfl⟩ := List.mem_map.mp hmem
    exact h.below pair List.mem_cons_self root hroot hroot_synced hbelow
  constructor
  · intro other hother
    exact h.created other (List.mem_cons_of_mem _ hother)
  · intro other hother
    rcases List.mem_append.mp hother with hother | hother
    · exact h.delivered other hother
    · rw [List.mem_singleton] at hother
      subst hother
      exact hbelow
  · intro other hother
    exact h.old other (List.mem_cons_of_mem _ hother)
  · intro other hother root hroot hroot_synced hroot_below
    rcases List.mem_append.mp hroot with hroot | hroot
    · exact h.below other (List.mem_cons_of_mem _ hother) root hroot hroot_synced hroot_below
    · rw [List.mem_singleton] at hroot
      subst hroot
      rw [hsynced] at hroot_synced
      cases hroot_synced

/-- What is common stays when other snapshots are destroyed on a disk that is done. -/
theorem Syncing.of_keeps {hosts' : Hosts} (h : Syncing vm new done todo hosts)
    (hsrc : ∀ other, other ∈ todo ∨ other ∈ done → ∀ snap ∈ hosts.src other.src_disk,
      snap.name = new ∨ other ∈ todo → snap ∈ hosts'.src other.src_disk)
    (hdst : ∀ other, other ∈ todo ∨ other ∈ done → ∀ snap ∈ hosts.dst other.dst_disk,
      snap.name = new ∨ other ∈ todo → snap ∈ hosts'.dst other.dst_disk) : Syncing vm new done todo hosts' := by
  have hcommon : ∀ {P : Snap → Prop} {other : DiskPair}, other ∈ todo → hosts.Common P other.disks →
      hosts'.Common P other.disks := by
    rintro P other hother ⟨snap, hP, hs, hd⟩
    exact ⟨snap, hP, hsrc other (.inl hother) snap hs (.inr hother), hdst other (.inl hother) snap hd (.inr hother)⟩
  constructor
  · intro other hother
    obtain ⟨snap, hsnap, hname⟩ := h.created other hother
    exact ⟨snap, hsrc other (.inl hother) snap hsnap (.inl hname), hname⟩
  · intro other hother
    obtain ⟨snap, hname, hs, hd⟩ := h.delivered other hother
    exact ⟨snap, hname, hsrc other (.inr hother) snap hs (.inl hname), hdst other (.inr hother) snap hd (.inl hname)⟩
  · intro other hother
    exact hcommon hother (h.old other hother)
  · intro other hother root hroot hroot_synced hbelow
    exact hcommon hother (h.below other hother root hroot hroot_synced hbelow)

theorem Syncing.destroy_src (h : Syncing vm new done todo hosts) (hvm : Initialised vm)
    (hsplit : (done ++ todo).map DiskPair.disks = vm.disks) (hpair : pair ∈ done) {names : List Nat}
    (hnames : new ∉ names) {src : Host}
    (hdestroy : hosts.src.destroy_snapshots pair.src_disk names = some src) :
    Syncing vm new done todo { hosts with src } := by
  apply h.of_keeps
  · intro other hother snap hsnap hkept
    apply destroy_keeps hdestroy hsnap
    intro hds hname
    rcases hkept with hkept | hkept
    · rw [hkept] at hname
      exact hnames hname
    · exact (hvm.disks_ne hsplit hpair hkept).1 hds
  · intro other _ snap hsnap _
    exact hsnap

theorem Syncing.destroy_dst (h : Syncing vm new done todo hosts) (hvm : Initialised vm)
    (hsplit : (done ++ todo).map DiskPair.disks = vm.disks) (hpair : pair ∈ done) {names : List Nat}
    (hnames : new ∉ names) {dst : Host}
    (hdestroy : hosts.dst.destroy_snapshots pair.dst_disk names = some dst) :
    Syncing vm new done todo { hosts with dst } := by
  apply h.of_keeps
  · intro other _ snap hsnap _
    exact hsnap
  · intro other hother snap hsnap hkept
    apply destroy_keeps hdestroy hsnap
    intro hds hname
    rcases hkept with hkept | hkept
    · rw [hkept] at hname
      exact hnames hname
    · exact (hvm.disks_ne hsplit hpair hkept).2 hds

end invariants

/-- The timestamp of the cold sync is in the name of no snapshot of the slave's disks. -/
def Run.Fresh (run : Run) (vm : Vm) (hosts : Hosts) : Prop :=
  ∀ disk ∈ vm.disks, ∀ snap ∈ hosts.dst disk.2, snap.name ≠ run.timestamp

def to_clean (new : Nat) (save_snap_info : Bool) (pairs : List DiskPair) : List (Dataset × Dataset × Nat) :=
  if save_snap_info then pairs.map fun pair => (pair.src_disk, pair.dst_disk, new) else []

theorem saved_to_clean (new : Nat) (save_snap_info : Bool) (pairs : List DiskPair) :
    Saved new pairs (to_clean new save_snap_info pairs) := by
  intro disk hdisk
  unfold to_clean at hdisk
  split at hdisk
  · obtain ⟨pair, hpair, rfl⟩ := List.mem_map.mp hdisk
    exact ⟨rfl, pair, hpair, rfl⟩
  · cases hdisk

section commands

variable {vm : Vm} {fails : Step → Bool} {new : Nat} {done todo pairs : List DiskPair} {pair : DiskPair}
  {before : Hosts} {synced : List (Dataset × Dataset)}

theorem triple_create_new_snapshot (hvm : Initialised vm)
    (hsplit : (done ++ pair :: todo).map DiskPair.disks = vm.disks) (n : Nat) (save_snap_info : Bool) :
    Triple fails
      (fun rep => Creating new done (pair :: todo) rep.hosts ∧
        rep.vm_disks_snap = to_clean new save_snap_info done ∧ rep.vm_disks_synced = synced)
      (_create_new_snapshot n pair.src_disk pair.dst_disk new save_snap_info)
      (fun _ rep => Creating new (done ++ [pair]) todo rep.hosts ∧
        rep.vm_disks_snap = to_clean new save_snap_info (done ++ [pair]) ∧ rep.vm_disks_synced = synced)
      (fun _ rep => Recoverable vm rep) := by
  refine Triple.bind (M := fun _ rep => Creating new (done ++ [pair]) todo rep.hosts ∧
    rep.vm_disks_snap = to_clean new save_snap_info done ∧ rep.vm_disks_synced = synced) ?_ fun _ => ?_
  · apply Triple.checked
    · rintro rep ⟨h, hsnap, _⟩ _
      apply h.recoverable rfl hvm hsplit
      rw [hsnap]
      exact saved_to_clean new save_snap_info done
    · rintro rep rep' ⟨h, hsnap, hsynced⟩ heffect _
      obtain ⟨src, hcreate, rfl⟩ := Option.map_eq_some_iff.mp heffect
      exact ⟨h.create hcreate _, hsnap, hsynced⟩
  · cases save_snap_info with
    | true =>
      apply Triple.assign
      rintro rep ⟨h, hsnap, hsynced⟩
      refine ⟨h, ?_, hsynced⟩
      change rep.vm_disks_snap ++ _ = _
      rw [hsnap]
      simp [to_clean]
    | false =>
      apply Triple.pure
      rintro rep ⟨h, hsnap, hsynced⟩
      exact ⟨h, hsnap, hsynced⟩

theorem triple_create_new_snapshots (synced : List (Dataset × Dataset)) (done todo : List DiskPair) (hvm : Initialised vm)
    (hsplit : (done ++ todo).map DiskPair.disks = vm.disks) (n : Nat) (save_snap_info : Bool) :
    Triple fails
      (fun rep => Creating new done todo rep.hosts ∧
        rep.vm_disks_snap = to_clean new save_snap_info done ∧ rep.vm_disks_synced = synced)
      (create_new_snapshots n new save_snap_info (todo.map DiskPair.disks))
      (fun _ rep => Syncing vm new [] (done ++ todo) rep.hosts ∧ (∀ pair ∈ done ++ todo, new ∉ pair.src_snaps) ∧
        rep.vm_disks_snap = to_clean new save_snap_info (done ++ todo) ∧ rep.vm_disks_synced = synced)
      (fun _ rep => Recoverable vm rep) := by
  induction todo generalizing done with
  | nil =>
    rw [List.append_nil]
    apply Triple.pure
    rintro rep ⟨h, hsnap, hsynced⟩
    exact ⟨h.syncing, h.fresh, hsnap, hsynced⟩
  | cons pair todo ih =>
    refine Triple.bind (triple_create_new_snapshot hvm hsplit n save_snap_info) fun _ => ?_
    rw [List.append_cons done pair todo] at hsplit ⊢
    exact ih _ hsplit

/-- One disk: its stream, which a delegated dataset does not have of its own. -/
theorem triple_send (hvm : Initialised vm) (hsplit : (done ++ pair :: todo).map DiskPair.disks = vm.disks)
    (zfs : Zfs) (n incr : Nat) {saved : List (Dataset × Dataset × Nat)} (hsaved : Saved new (pair :: todo) saved) :
    Triple fails
      (fun rep => Syncing vm new done (pair :: todo) rep.hosts ∧ rep.vm_disks_snap = saved ∧
        rep.vm_disks_synced = synced)
      (if vm._should_be_synced pair.src_disk then _send_recv zfs n ⟨pair.src_disk, pair.dst_disk, new, incr⟩
      else pure ())
      (fun _ rep => Syncing vm new (done ++ [pair]) todo rep.hosts ∧ rep.vm_disks_snap = saved ∧
        rep.vm_disks_synced = synced)
      (fun _ rep => Recoverable vm rep) := by
  cases hroot : vm._should_be_synced pair.src_disk with
  | false =>
    apply Triple.pure
    rintro rep ⟨h, hsnap, hsynced⟩
    exact ⟨h.delegated hvm hsplit hroot, hsnap, hsynced⟩
  | true =>
    rintro rep ⟨h, hsnap, hsynced⟩
    rw [if_pos rfl, _send_recv, Procedure.under_bind, Procedure.under_state]
    simp only [Procedure.under_bind, Procedure.under_assign]
    cases hdone : (zfs.send_recv n ⟨pair.src_disk, pair.dst_disk, new, incr⟩ rep.hosts.src rep.hosts.dst).1 with
    | true => exact ⟨h.send_done hvm hsplit zfs n incr hroot hdone, hsnap, hsynced⟩
    | false =>
      have hfailed := h.send_failed hvm hsplit zfs n ⟨pair.src_disk, pair.dst_disk, new, incr⟩
        (mem_disks hsplit (.inr List.mem_cons_self)) hroot
      refine hfailed.recoverable rfl hvm hsplit ?_
      change Saved new (pair :: todo) rep.vm_disks_snap
      rw [hsnap]
      exact hsaved

theorem triple_destroy_src (hvm : Initialised vm) (hsplit : (done ++ todo).map DiskPair.disks = vm.disks)
    (hpair : pair ∈ done) {names : List Nat} (hnames : new ∉ names) (n : Nat)
    {saved : List (Dataset × Dataset × Nat)} (hsaved : Saved new todo saved) :
    Triple fails
      (fun rep => Syncing vm new done todo rep.hosts ∧ rep.vm_disks_snap = saved ∧ rep.vm_disks_synced = synced)
      (destroy_src n pair.src_disk names)
      (fun _ rep => Syncing vm new done todo rep.hosts ∧ rep.vm_disks_snap = saved ∧ rep.vm_disks_synced = synced)
      (fun _ rep => Recoverable vm rep) := by
  apply Triple.checked
  · rintro rep ⟨h, hsnap, _⟩ _
    apply h.recoverable rfl hvm hsplit
    rw [hsnap]
    exact hsaved
  · rintro rep rep' ⟨h, hsnap, hsynced⟩ heffect _
    obtain ⟨src, hdestroy, rfl⟩ := Option.map_eq_some_iff.mp heffect
    exact ⟨h.destroy_src hvm hsplit hpair hnames hdestroy, hsnap, hsynced⟩

theorem triple_destroy_dst (hvm : Initialised vm) (hsplit : (done ++ todo).map DiskPair.disks = vm.disks)
    (hpair : pair ∈ done) {names : List Nat} (hnames : new ∉ names) (n : Nat)
    {saved : List (Dataset × Dataset × Nat)} (hsaved : Saved new todo saved) :
    Triple fails
      (fun rep => Syncing vm new done todo rep.hosts ∧ rep.vm_disks_snap = saved ∧ rep.vm_disks_synced = synced)
      (destroy_dst n pair.src_disk pair.dst_disk names)
      (fun _ rep => Syncing vm new done todo rep.hosts ∧ rep.vm_disks_snap = saved ∧ rep.vm_disks_synced = synced)
      (fun _ rep => Recoverable vm rep) := by
  apply Triple.checked
  · rintro rep ⟨h, hsnap, _⟩ _
    apply h.recoverable rfl hvm hsplit
    rw [hsnap]
    exact hsaved
  · rintro rep rep' ⟨h, hsnap, hsynced⟩ heffect _
    obtain ⟨dst, hdestroy, rfl⟩ := Option.map_eq_some_iff.mp heffect
    exact ⟨h.destroy_dst hvm hsplit hpair hnames hdestroy, hsnap, hsynced⟩

theorem triple_nonempty (hvm : Initialised vm) (hsplit : (done ++ todo).map DiskPair.disks = vm.disks)
    (names : List Nat) {saved : List (Dataset × Dataset × Nat)} (hsaved : Saved new todo saved) :
    Triple fails
      (fun rep => Syncing vm new done todo rep.hosts ∧ rep.vm_disks_snap = saved ∧ rep.vm_disks_synced = synced)
      (nonempty names)
      (fun _ rep => Syncing vm new done todo rep.hosts ∧ rep.vm_disks_snap = saved ∧ rep.vm_disks_synced = synced)
      (fun _ rep => Recoverable vm rep) := by
  unfold nonempty
  split
  · apply Triple.throw
    rintro rep ⟨h, hsnap, _⟩
    apply h.recoverable rfl hvm hsplit
    rw [hsnap]
    exact hsaved
  · exact Triple.pure fun _ h => h

theorem triple_cold_sync_disk (hvm : Initialised vm)
    (hsplit : (done ++ pair :: todo).map DiskPair.disks = vm.disks) (zfs : Zfs) (hsrc : new ∉ pair.src_snaps)
    (hdst : new ∉ pair.dst_snaps) :
    Triple fails
      (fun rep => Syncing vm new done (pair :: todo) rep.hosts ∧
        rep.vm_disks_snap = to_clean new true (pair :: todo) ∧ rep.vm_disks_synced = done.map DiskPair.disks)
      (cold_sync_disk vm zfs new pair)
      (fun _ rep => Syncing vm new (done ++ [pair]) todo rep.hosts ∧ rep.vm_disks_snap = to_clean new true todo ∧
        rep.vm_disks_synced = (done ++ [pair]).map DiskPair.disks)
      (fun _ rep => Recoverable vm rep) := by
  have hsplit' := hsplit
  rw [List.append_cons] at hsplit'
  have hpair : pair ∈ done ++ [pair] := List.mem_append_right _ (List.mem_singleton_self pair)
  have hsaved := saved_to_clean new true todo
  have hsynced : Triple fails
      (fun rep => Syncing vm new done (pair :: todo) rep.hosts ∧
        rep.vm_disks_snap = to_clean new true (pair :: todo) ∧ rep.vm_disks_synced = done.map DiskPair.disks)
      (_sync_disk vm zfs 0 pair.src_disk pair.dst_disk pair.incr_snap new false)
      (fun _ rep => Syncing vm new (done ++ [pair]) todo rep.hosts ∧ rep.vm_disks_snap = to_clean new true todo ∧
        rep.vm_disks_synced = done.map DiskPair.disks)
      (fun _ rep => Recoverable vm rep) := by
    refine Triple.bind (triple_send hvm hsplit zfs 0 pair.incr_snap (saved_to_clean new true _)) fun _ => ?_
    apply Triple.assign
    rintro rep ⟨h, hsnap, hsynced⟩
    refine ⟨h, ?_, hsynced⟩
    change rep.vm_disks_snap.tail = _
    rw [hsnap]
    rfl
  refine Triple.bind hsynced fun _ => ?_
  refine Triple.bind (triple_nonempty hvm hsplit' _ hsaved) fun _ => ?_
  refine Triple.bind (triple_destroy_src hvm hsplit' hpair hsrc 0 hsaved) fun _ => ?_
  refine Triple.bind (triple_nonempty hvm hsplit' _ hsaved) fun _ => ?_
  refine Triple.bind (triple_destroy_dst hvm hsplit' hpair hdst 0 hsaved) fun _ => ?_
  apply Triple.assign
  rintro rep ⟨h, hsnap, hsynced⟩
  refine ⟨h, hsnap, ?_⟩
  change rep.vm_disks_synced ++ _ = _
  rw [hsynced, List.map_append]
  rfl

theorem triple_cold_sync_disks (done todo : List DiskPair) (hvm : Initialised vm)
    (hsplit : (done ++ todo).map DiskPair.disks = vm.disks) (zfs : Zfs)
    (hsrc : ∀ pair ∈ todo, new ∉ pair.src_snaps) (hdst : ∀ pair ∈ todo, new ∉ pair.dst_snaps) :
    Triple fails
      (fun rep => Syncing vm new done todo rep.hosts ∧
        rep.vm_disks_snap = to_clean new true todo ∧ rep.vm_disks_synced = done.map DiskPair.disks)
      (cold_sync_disks vm zfs new todo)
      (fun _ rep => Syncing vm new (done ++ todo) [] rep.hosts ∧ rep.vm_disks_snap = [] ∧
        rep.vm_disks_synced = vm.disks)
      (fun _ rep => Recoverable vm rep) := by
  induction todo generalizing done with
  | nil =>
    rw [List.append_nil] at hsplit ⊢
    rw [← hsplit]
    exact Triple.pure fun _ h => h
  | cons pair todo ih =>
    refine Triple.bind (triple_cold_sync_disk hvm hsplit zfs (hsrc pair List.mem_cons_self)
      (hdst pair List.mem_cons_self)) fun _ => ?_
    rw [List.append_cons done pair todo] at hsplit ⊢
    exact ih _ hsplit (fun other hother => hsrc other (List.mem_cons_of_mem _ hother))
      fun other hother => hdst other (List.mem_cons_of_mem _ hother)

theorem triple_hot_sync_disk (hvm : Initialised vm)
    (hsplit : (done ++ pair :: todo).map DiskPair.disks = vm.disks) (zfs : Zfs) (n : Nat) {incr : Nat}
    (hincr : new ≠ incr) :
    Triple fails
      (fun rep => Syncing vm new done (pair :: todo) rep.hosts ∧ rep.vm_disks_snap = [] ∧
        rep.vm_disks_synced = done.map DiskPair.disks)
      (hot_sync_disk vm zfs n incr new pair.disks)
      (fun _ rep => Syncing vm new (done ++ [pair]) todo rep.hosts ∧ rep.vm_disks_snap = [] ∧
        rep.vm_disks_synced = (done ++ [pair]).map DiskPair.disks)
      (fun _ rep => Recoverable vm rep) := by
  have hsplit' := hsplit
  rw [List.append_cons] at hsplit'
  have hpair : pair ∈ done ++ [pair] := List.mem_append_right _ (List.mem_singleton_self pair)
  have hsaved : ∀ pairs, Saved new pairs [] := fun pairs => saved_to_clean new false pairs
  have hnames : new ∉ [incr] := by simpa using hincr
  have hsynced : Triple fails
      (fun rep => Syncing vm new done (pair :: todo) rep.hosts ∧ rep.vm_disks_snap = [] ∧
        rep.vm_disks_synced = done.map DiskPair.disks)
      (_sync_disk vm zfs n pair.src_disk pair.dst_disk incr new true)
      (fun _ rep => Syncing vm new (done ++ [pair]) todo rep.hosts ∧ rep.vm_disks_snap = [] ∧
        rep.vm_disks_synced = done.map DiskPair.disks)
      (fun _ rep => Recoverable vm rep) := by
    refine Triple.bind (triple_send hvm hsplit zfs n incr (hsaved _)) fun _ => ?_
    refine Triple.bind (triple_destroy_src hvm hsplit' hpair hnames n (hsaved _)) fun _ => ?_
    exact triple_destroy_dst hvm hsplit' hpair hnames n (hsaved _)
  refine Triple.bind hsynced fun _ => ?_
  apply Triple.assign
  rintro rep ⟨h, hsnap, hsynced⟩
  refine ⟨h, hsnap, ?_⟩
  change rep.vm_disks_synced ++ _ = _
  rw [hsynced, List.map_append]
  rfl

theorem triple_hot_sync_disks (done todo : List DiskPair) (hvm : Initialised vm)
    (hsplit : (done ++ todo).map DiskPair.disks = vm.disks) (zfs : Zfs) (n : Nat) {incr : Nat}
    (hincr : ∀ pair ∈ todo, new ∉ pair.src_snaps) (hsnaps : ∀ pair ∈ todo, pair.src_snaps = [incr]) :
    Triple fails
      (fun rep => Syncing vm new done todo rep.hosts ∧ rep.vm_disks_snap = [] ∧
        rep.vm_disks_synced = done.map DiskPair.disks)
      (hot_sync_disks vm zfs n incr new (todo.map DiskPair.disks))
      (fun _ rep => Syncing vm new (done ++ todo) [] rep.hosts ∧ rep.vm_disks_snap = [] ∧
        rep.vm_disks_synced = vm.disks)
      (fun _ rep => Recoverable vm rep) := by
  induction todo generalizing done with
  | nil =>
    rw [List.append_nil] at hsplit ⊢
    rw [← hsplit]
    exact Triple.pure fun _ h => h
  | cons pair todo ih =>
    have hne : new ≠ incr := by
      have hpair := hincr pair List.mem_cons_self
      rw [hsnaps pair List.mem_cons_self] at hpair
      simpa using hpair
    refine Triple.bind (triple_hot_sync_disk hvm hsplit zfs n hne) fun _ => ?_
    rw [List.append_cons done pair todo] at hsplit ⊢
    exact ih _ hsplit (fun other hother => hincr other (List.mem_cons_of_mem _ hother))
      fun other hother => hsnaps other (List.mem_cons_of_mem _ hother)

end commands

section run

variable {vm : Vm} {fails : Step → Bool}

theorem triple_get_common_snapshot (before : Hosts) (disk : Dataset × Dataset) :
    Triple fails (fun rep => rep = .init before) (_get_common_snapshot disk.1 disk.2)
      (fun snaps rep => rep = .init before ∧ snaps.2.1 = (before.src disk.1).map Snap.name ∧
        snaps.2.2 = (before.dst disk.2).map Snap.name)
      (fun _ rep => rep = .init before) := by
  refine Triple.bind (M := fun names rep => rep = .init before ∧ names = (before.dst disk.2).map Snap.name) ?_ ?_
  · apply Triple.query
    · rintro rep rfl _
      rfl
    · rintro rep names rfl hnames _
      cases hnames
      exact ⟨rfl, rfl⟩
  rintro dst_snapshots rep ⟨rfl, rfl⟩
  refine Triple.bind (P := fun rep => rep = .init before)
    (M := fun names rep => rep = .init before ∧ names = (before.src disk.1).map Snap.name) ?_ ?_ _ rfl
  · apply Triple.query
    · rintro rep rfl _
      rfl
    · rintro rep names rfl hnames _
      cases hnames
      exact ⟨rfl, rfl⟩
  rintro src_snapshots rep ⟨rfl, rfl⟩
  refine Triple.bind (P := fun rep => rep = .init before) (M := fun _ rep => rep = .init before) ?_ ?_ _ rfl
  · unfold last_snap_name
    split
    · exact Triple.pure fun _ h => h
    · exact Triple.throw fun _ h => h
  intro snap
  apply Triple.pure
  rintro rep rfl
  exact ⟨rfl, rfl, rfl⟩

/-- The checks change nothing, and every pair has the names that are on its disks. -/
theorem triple_check_disks (before : Hosts) (disks : List (Dataset × Dataset)) :
    Triple fails (fun rep => rep = .init before) (check_disks disks)
      (fun pairs rep => rep = .init before ∧ pairs.map DiskPair.disks = disks ∧
        ∀ pair ∈ pairs, pair.src_snaps = (before.src pair.src_disk).map Snap.name ∧
          pair.dst_snaps = (before.dst pair.dst_disk).map Snap.name)
      (fun _ rep => rep = .init before) := by
  induction disks with
  | nil =>
    apply Triple.pure
    rintro rep rfl
    exact ⟨rfl, rfl, fun _ hpair => absurd hpair List.not_mem_nil⟩
  | cons disk disks ih =>
    refine Triple.bind (M := fun _ rep => rep = .init before) ?_ fun _ => ?_
    · apply Triple.checked
      · rintro rep rfl _
        rfl
      · rintro rep rep' rfl heffect _
        cases heffect
        rfl
    refine Triple.bind (triple_get_common_snapshot before disk) ?_
    rintro snaps rep ⟨rfl, hsrc, hdst⟩
    refine Triple.bind ih ?_ _ rfl
    rintro pairs
    apply Triple.pure
    rintro rep ⟨rfl, hpairs, hsnaps⟩
    refine ⟨rfl, by rw [List.map_cons, hpairs]; rfl, ?_⟩
    intro pair hpair
    rcases List.mem_cons.mp hpair with rfl | hpair
    · exact ⟨hsrc, hdst⟩
    · exact hsnaps pair hpair

theorem Replicated.creating {before : Hosts} (h : Replicated vm before) (new : Nat) {pairs : List DiskPair}
    (hpairs : pairs.map DiskPair.disks = vm.disks)
    (hlisted : ∀ pair ∈ pairs, ∀ name ∈ pair.src_snaps, ∃ snap ∈ before.src pair.src_disk, snap.name = name) :
    Creating new [] pairs before where
  created := fun _ hpair => absurd hpair List.not_mem_nil
  fresh := fun _ hpair => absurd hpair List.not_mem_nil
  old := fun _ hpair => absurd hpair List.not_mem_nil
  common := by
    intro pair hpair
    apply h
    rw [← hpairs]
    exact List.mem_map_of_mem hpair
  listed := hlisted

theorem Replicated.recoverable {rep : Replication} (h : Replicated vm rep.hosts) (hsnap : rep.vm_disks_snap = []) :
    Recoverable vm rep := by
  intro disk hdisk
  apply (h disk hdisk).imp
  intro snap _ saved hmem
  rw [hsnap] at hmem
  cases hmem

theorem triple_cold_sync (hvm : Initialised vm) (zfs : Zfs) (new : Nat) {before : Hosts} {pairs : List DiskPair}
    (hpairs : pairs.map DiskPair.disks = vm.disks)
    (hsnaps : ∀ pair ∈ pairs, pair.src_snaps = (before.src pair.src_disk).map Snap.name ∧
      pair.dst_snaps = (before.dst pair.dst_disk).map Snap.name)
    (hcommon : Replicated vm before) (hfresh : ∀ disk ∈ vm.disks, ∀ snap ∈ before.dst disk.2, snap.name ≠ new) :
    Triple fails (fun rep => rep = .init before) (_cold_sync vm zfs new pairs)
      (fun _ rep => (∀ disk ∈ vm.disks, rep.hosts.Common (·.name = new) disk) ∧ rep.vm_disks_snap = [] ∧
        rep.vm_disks_synced = vm.disks)
      (fun _ rep => Recoverable vm rep) := by
  have hcreating : Creating new [] pairs before := by
    apply hcommon.creating new hpairs
    intro pair hpair name hname
    rw [(hsnaps pair hpair).1] at hname
    exact List.mem_map.mp hname
  have hdst : ∀ pair ∈ pairs, new ∉ pair.dst_snaps := by
    intro pair hpair hnew
    rw [(hsnaps pair hpair).2] at hnew
    obtain ⟨snap, hsnap, hname⟩ := List.mem_map.mp hnew
    exact hfresh pair.disks (hpairs ▸ List.mem_map_of_mem hpair) snap hsnap hname
  refine Triple.bind (M := fun _ rep => Creating new [] pairs rep.hosts ∧
    rep.vm_disks_snap = to_clean new true [] ∧ rep.vm_disks_synced = []) ?_ fun _ => ?_
  · apply Triple.assign
    rintro rep rfl
    exact ⟨hcreating, rfl, rfl⟩
  refine Triple.bind (triple_create_new_snapshots [] [] pairs hvm hpairs 0 true) fun _ => ?_
  rintro rep ⟨h, hsrc, hsnap, hsynced⟩
  refine (triple_cold_sync_disks [] pairs hvm hpairs zfs hsrc hdst).consequence (fun _ h => h) ?_ (fun _ _ h => h) rep
    ⟨h, hsnap, hsynced⟩
  rintro _ rep ⟨h, hsnap, hsynced⟩
  refine ⟨?_, hsnap, hsynced⟩
  intro disk hdisk
  rw [← hpairs] at hdisk
  obtain ⟨pair, hpair, rfl⟩ := List.mem_map.mp hdisk
  exact h.delivered pair hpair

/-- The pair of disks in a hot sync, which destroys the last snapshot on both sides. -/
def hot_pair (incr : Nat) (disk : Dataset × Dataset) : DiskPair := ⟨disk.1, disk.2, incr, [incr], [incr]⟩

theorem triple_hot_sync (hvm : Initialised vm) (zfs : Zfs) (n incr new : Nat) :
    Triple fails
      (fun rep => (∀ disk ∈ vm.disks, rep.hosts.Common (·.name = incr) disk) ∧ rep.vm_disks_snap = [] ∧
        rep.vm_disks_synced = vm.disks)
      (_hot_sync vm zfs n incr new vm.disks)
      (fun _ rep => (∀ disk ∈ vm.disks, rep.hosts.Common (·.name = new) disk) ∧ rep.vm_disks_snap = [] ∧
        rep.vm_disks_synced = vm.disks)
      (fun _ rep => Recoverable vm rep) := by
  have hpairs : (vm.disks.map (hot_pair incr)).map DiskPair.disks = vm.disks := by
    rw [List.map_map]
    exact List.map_id' vm.disks
  refine Triple.bind (M := fun _ rep => Creating new [] (vm.disks.map (hot_pair incr)) rep.hosts ∧
    rep.vm_disks_snap = to_clean new false [] ∧ rep.vm_disks_synced = []) ?_ fun _ => ?_
  · apply Triple.assign
    rintro rep ⟨h, hsnap, _⟩
    refine ⟨?_, hsnap, rfl⟩
    apply Replicated.creating (fun disk hdisk => (h disk hdisk).imp fun _ _ => trivial) new hpairs
    intro pair hpair name hname
    obtain ⟨disk, hdisk, rfl⟩ := List.mem_map.mp hpair
    obtain ⟨snap, hincr, hsrc, _⟩ := h disk hdisk
    rw [hot_pair, List.mem_singleton] at hname
    exact ⟨snap, hsrc, hincr.trans hname.symm⟩
  have hcreate : Triple fails _ (create_new_snapshots n new false _) _ _ :=
    triple_create_new_snapshots [] [] (vm.disks.map (hot_pair incr)) hvm hpairs n false
  rw [hpairs] at hcreate
  refine Triple.bind hcreate fun _ => ?_
  rintro rep ⟨h, hsrc, hsnap, hsynced⟩
  have hsnaps : ∀ pair ∈ vm.disks.map (hot_pair incr), pair.src_snaps = [incr] := by
    intro pair hpair
    obtain ⟨disk, _, rfl⟩ := List.mem_map.mp hpair
    rfl
  have hhot : Triple fails _ (hot_sync_disks vm zfs n incr new _) _ _ :=
    triple_hot_sync_disks [] (vm.disks.map (hot_pair incr)) hvm hpairs zfs n hsrc hsnaps
  rw [hpairs] at hhot
  refine hhot.consequence (fun _ h => h) ?_ (fun _ _ h => h) rep ⟨h, hsnap, hsynced⟩
  rintro _ rep ⟨h, hsnap, hsynced⟩
  refine ⟨?_, hsnap, hsynced⟩
  intro disk hdisk
  rw [← hpairs] at hdisk
  obtain ⟨pair, hpair, rfl⟩ := List.mem_map.mp hdisk
  exact h.delivered pair hpair

theorem triple_hot_syncs (hvm : Initialised vm) (zfs : Zfs) (timestamps : List Nat) :
    ∀ n incr, Triple fails
      (fun rep => (∀ disk ∈ vm.disks, rep.hosts.Common (·.name = incr) disk) ∧ rep.vm_disks_snap = [] ∧
        rep.vm_disks_synced = vm.disks)
      (hot_syncs vm zfs vm.disks n incr timestamps)
      (fun _ rep => Replicated vm rep.hosts) (fun _ rep => Recoverable vm rep) := by
  induction timestamps with
  | nil =>
    intro n incr
    apply Triple.pure
    rintro rep ⟨h, _, _⟩
    exact fun disk hdisk => (h disk hdisk).imp fun _ _ => trivial
  | cons new timestamps ih =>
    intro n incr
    exact Triple.bind (triple_hot_sync hvm zfs n incr new) fun _ => ih (n + 1) new

theorem triple_sync (hvm : Initialised vm) (run : Run) {before : Hosts} (hcommon : Replicated vm before)
    (hfresh : run.Fresh vm before) :
    Triple fails (fun rep => rep = .init before) (sync vm run) (fun _ rep => Replicated vm rep.hosts)
      (fun _ rep => Recoverable vm rep) := by
  have hinit : ∀ rep, rep = .init before → Recoverable vm rep := by
    rintro rep rfl
    exact Replicated.recoverable hcommon rfl
  have hunchanged : ∀ (step : Step) (e : Error), Triple fails (fun rep => rep = .init before)
      (Procedure.checked step some e) (fun _ rep => rep = .init before) (fun _ rep => Recoverable vm rep) := by
    intro step e
    apply Triple.checked
    · intro rep hrep _
      exact hinit rep hrep
    · rintro rep rep' rfl heffect _
      cases heffect
      rfl
  refine Triple.bind (hunchanged _ _) fun _ => ?_
  refine Triple.bind (M := fun _ rep => rep = .init before) ?_ fun _ => ?_
  · split
    · exact Triple.throw hinit
    · exact Triple.pure fun _ h => h
  refine Triple.bind (M := fun _ rep => rep = .init before) ?_ fun _ => ?_
  · split
    · exact hunchanged _ _
    · exact Triple.pure fun _ h => h
  refine Triple.bind ((triple_check_disks before vm.disks).consequence (fun _ h => h) (fun _ _ h => h)
    fun _ rep h => hinit rep h) ?_
  rintro pairs rep ⟨rfl, hpairs, hsnaps⟩
  refine Triple.bind (triple_cold_sync hvm run.zfs run.timestamp hpairs hsnaps hcommon hfresh) (fun _ => ?_) _ rfl
  refine Triple.bind (M := fun rep rep' => rep' = rep ∧
    (∀ disk ∈ vm.disks, rep.hosts.Common (·.name = run.timestamp) disk) ∧ rep.vm_disks_snap = [] ∧
      rep.vm_disks_synced = vm.disks) (Triple.state fun rep h => ⟨rfl, h⟩) ?_
  rintro rep rep' ⟨rfl, h⟩
  rw [h.2.2]
  exact triple_hot_syncs hvm run.zfs run.hot 1 run.timestamp rep' h

theorem triple_cleanup_disks (saved : List (Dataset × Dataset × Nat)) :
    Triple fails
      (fun rep => ∀ disk ∈ vm.disks, rep.hosts.Common
        (fun snap => ∀ old ∈ saved, old.1 = disk.1 → snap.name ≠ old.2.2) disk)
      (cleanup_disks saved) (fun _ rep => Replicated vm rep.hosts) (fun _ _ => False) := by
  induction saved with
  | nil =>
    apply Triple.pure
    exact fun rep h disk hdisk => (h disk hdisk).imp fun _ _ => trivial
  | cons old saved ih =>
    have htail : ∀ rep : Replication, (∀ disk ∈ vm.disks, rep.hosts.Common
        (fun snap => ∀ other ∈ old :: saved, other.1 = disk.1 → snap.name ≠ other.2.2) disk) →
        ∀ disk ∈ vm.disks, rep.hosts.Common (fun snap => ∀ other ∈ saved, other.1 = disk.1 → snap.name ≠ other.2.2) disk := by
      intro rep h disk hdisk
      exact (h disk hdisk).imp fun snap hsnap other hother => hsnap other (List.mem_cons_of_mem _ hother)
    refine Triple.bind (M := fun _ rep => ∀ disk ∈ vm.disks, rep.hosts.Common
      (fun snap => ∀ other ∈ saved, other.1 = disk.1 → snap.name ≠ other.2.2) disk) ?_ fun _ => ih
    apply Triple.command
    · exact htail
    · intro rep rep' h heffect _ disk hdisk
      obtain ⟨src, hdestroy, rfl⟩ := Option.map_eq_some_iff.mp heffect
      obtain ⟨snap, hsnap, hsrc, hdst⟩ := h disk hdisk
      refine ⟨snap, fun other hother => hsnap other (List.mem_cons_of_mem _ hother), ?_, hdst⟩
      apply destroy_keeps hdestroy hsrc
      intro hds hname
      exact hsnap old List.mem_cons_self hds.symm (List.mem_singleton.mp hname)

/-- A call leaves every pair of disks with a common snapshot, wherever it has stopped. -/
theorem execute_replicated (hvm : Initialised vm) (run : Run) {hosts : Hosts} (hcommon : Replicated vm hosts)
    (hfresh : run.Fresh vm hosts) : Replicated vm (run.execute vm hosts) := by
  have hcleanup : Triple run.fails (fun rep => Recoverable vm rep) sync_cleanup
      (fun _ rep => Replicated vm rep.hosts) (fun _ _ => False) := by
    refine Triple.bind (M := fun rep rep' => rep' = rep ∧ Recoverable vm rep)
      (Triple.state fun rep h => ⟨rfl, h⟩) ?_
    rintro rep rep' ⟨rfl, h⟩
    exact triple_cleanup_disks rep'.vm_disks_snap rep' h
  have houtput : Triple run.fails (fun rep => rep = .init hosts) (sync_output vm run)
      (fun _ rep => Replicated vm rep.hosts) (fun _ _ => False) := by
    have hsync : Triple run.fails (fun rep => rep = .init hosts) (do return some (← sync vm run))
        (fun _ rep => Replicated vm rep.hosts) (fun _ rep => Recoverable vm rep) :=
      Triple.bind (triple_sync hvm run hcommon hfresh) fun _ => Triple.pure fun _ h => h
    exact Triple.handle hsync fun _ => Triple.bind hcleanup fun _ => Triple.pure fun _ h => h
  have hpost := houtput _ rfl
  rw [Run.execute]
  rcases hrun : (sync_output vm run).under run.fails (.init hosts) with ⟨e | last_snap, rep⟩
  · rw [hrun] at hpost
    cases hpost
  · rw [hrun] at hpost
    exact hpost

end run

def sync_step (vm : Vm) (hosts : Hosts) (run : Run) : Option Hosts := some (run.execute vm hosts)

/-- After any number of calls of which none reuses a timestamp that a disk of the slave
still has a snapshot of, every pair of disks has a common snapshot. -/
theorem sync_replicated {vm : Vm} (hvm : Initialised vm) {hosts hosts' : Hosts} {runs : List Run}
    (hinit : Replicated vm hosts)
    (hrun : transition.Run (sync_step vm) (fun hosts run => run.Fresh vm hosts) hosts runs hosts') :
    Replicated vm hosts' := by
  apply hrun.invariant ?_ hinit
  intro hosts run next hcommon hfresh hstep
  cases hstep
  exact execute_replicated hvm run hcommon hfresh

/-- A pipeline that makes the destination a copy of the source and then reports `ok`. -/
def mirror (ok : Bool) : Zfs where
  send_recv _ stream src dst :=
    (ok, fun ds => if stream.dst <+: ds then src (stream.src ++ ds.drop stream.dst.length) else dst ds)
  kept := by
    intro _ stream src dst ds snap hsrc _
    simpa using hsrc
  delivered := by
    intro _ stream src dst ds snap _ hsrc _
    simpa using hsrc
  others := by
    intro _ stream src dst ds hbelow
    exact if_neg hbelow

def one_disk : Vm := ⟨.kvm, [["zones", "m-disk0"]], [["zones", "s-disk0"]]⟩

def one_snapshot : Hosts := ⟨fun _ => [⟨1, 0⟩], fun _ => [⟨1, 0⟩], 1⟩

/-- A call in which only the pipeline may fail, after the stream has arrived. -/
def call (ok : Bool) (timestamp : Nat) (hot : List Nat) : Run := ⟨fun _ => false, mirror ok, timestamp, hot⟩

theorem one_disk_initialised : Initialised one_disk where
  src_nodup := by simp [one_disk]
  dst_nodup := by simp [one_disk]
  layout := by
    intro root hroot _ disk hdisk _
    rw [one_disk, Vm.disks, List.zip_cons_cons, List.zip_nil_left, List.mem_singleton] at hroot hdisk
    subst hroot hdisk
    exact ⟨[], rfl⟩
  delegated := by
    intro _ disk _ _ hsynced
    cases hsynced

theorem one_snapshot_replicated : Replicated one_disk one_snapshot := by
  intro disk _
  exact ⟨⟨1, 0⟩, trivial, List.mem_singleton_self _, List.mem_singleton_self _⟩

theorem sync_replicated_two_calls :
    Replicated one_disk ((call true 7 [9]).execute one_disk ((call false 5 []).execute one_disk one_snapshot)) := by
  apply sync_replicated one_disk_initialised one_snapshot_replicated
  refine .cons (e := call false 5 []) ?_ rfl (.cons (e := call true 7 [9]) ?_ rfl (.nil _))
  · unfold Run.Fresh
    decide
  · unfold Run.Fresh
    decide

/-- The second call within a second destroys the snapshot that it has just received, as it has
the name of the one that the first call has left on the slave. -/
theorem sync_same_second :
    Initialised one_disk ∧ Replicated one_disk one_snapshot ∧
      transition.Run (sync_step one_disk) transition.anyStep one_snapshot [call false 5 [], call true 5 []]
        ((call true 5 []).execute one_disk ((call false 5 []).execute one_disk one_snapshot)) ∧
      ¬ Replicated one_disk
        ((call true 5 []).execute one_disk ((call false 5 []).execute one_disk one_snapshot)) := by
  refine ⟨one_disk_initialised, one_snapshot_replicated, .cons trivial rfl (.cons trivial rfl (.nil _)), ?_⟩
  intro h
  obtain ⟨snap, _, _, hdst⟩ := h (["zones", "m-disk0"], ["zones", "s-disk0"]) (by decide)
  have hnone : ((call true 5 []).execute one_disk ((call false 5 []).execute one_disk one_snapshot)).dst
      ["zones", "s-disk0"] = [] := by decide
  rw [hnone] at hdst
  cases hdst

end eslib.esrep

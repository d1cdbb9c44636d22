import Esdc.Bin.Esbackup.Created
import Esdc.Api.Vm.Backup.Rows
import Mathlib.Data.List.Nodup

namespace api.vm.backup

open zfs (Path)
open eslib.esbackup.delete (Snapshot FilePath Storage Value Response with_status)
open eslib.esbackup.create

/-- The callback for a new backup. -/
def vm_backup_cb (result : Output) (bkp_id : Nat) (rows : List Backup) : List Backup :=
  match rows.find? (·.id = bkp_id) with
  | none => rows
  | some bkp =>
    let data := result.json.getD []
    let success := match data.lookup "success" with | some (.bool b) => b | _ => false
    let rows :=
      if bkp.type = .DATASET then
        _vm_backup_deleted_last_snapshot_names data (_vm_backup_update_snapshots data .file_path rows)
      else rows
    if result.returncode = 0 ∧ success = true then
      let manifest_path := match data.lookup "metadata_file" with | some (.str path) => some path | _ => none
      let bkp :=
        match bkp.type with
        | .DATASET => { bkp with
            file_path := match data.lookup "backup_snapshot" with | some (.path path) => path | _ => .file ""
            size := match data.lookup "backup_snapshot_size" with | some (.int size) => some size.toNat | _ => none
            last := match data.lookup "last_snapshot_name" with | some (.name _) => true | _ => bkp.last }
        | .FILE => { bkp with
            file_path := match data.lookup "file" with | some (.path path) => path | _ => .file ""
            size := match data.lookup "size" with | some (.int size) => some size.toNat | _ => none }
      rows.map fun b => if b.id = bkp_id then { bkp with manifest_path, status := .OK } else b
    else rows.filter (·.id ≠ bkp_id)

/-- The disk of a VM and its backups: the table, the datasets on the backup node, the
snapshots of the disk and the next primary key. -/
structure Chain where
  rows : List Backup
  node : Storage
  remote : Storage
  next : Nat

/-- The disk and the destination of its backups. -/
structure Disk where
  remote_ds : Path
  ds : Path

/-- One backup: which commands fail, and what is given to the command. -/
structure Run where
  fails : Step → Bool
  host : Host
  metadata : Option String
  timestamp : Nat

def Disk.args (disk : Disk) (run : Run) (id : Nat) : Args := ⟨disk.remote_ds, id, disk.ds, run.metadata, run.timestamp⟩

/-- The row that is saved before the command is run. -/
def new_backup (id : Nat) : Backup := ⟨id, .DATASET, .file "", none, .PENDING, none, false⟩

/-- `POST vm_backup` with its command and its callback. -/
def Chain.vm_backup (disk : Disk) (chain : Chain) (run : Run) : Chain :=
  let result := (ds_create run.host (disk.args run chain.next)).under run.fails (.init chain.node chain.remote)
  ⟨vm_backup_cb (output result) chain.next (chain.rows ++ [new_backup chain.next]),
    result.2.node, result.2.remote, chain.next + 1⟩

/-- The rows are the backups on the node, and `last` says which of them are on the source. -/
structure Chained (disk : Disk) (chain : Chain) : Prop where
  nodup : (chain.rows.map Backup.id).Nodup
  held : ∀ b ∈ chain.rows, ∃ snap ∈ chain.node.snapshots, snap.id = b.id ∧ b.file_path = .snapshot snap
  exact_ : ∀ snap ∈ chain.node.snapshots, ∃ b ∈ chain.rows, b.id = snap.id ∧ b.file_path = .snapshot snap
  last : ∀ b ∈ chain.rows, b.last = true ↔ (⟨disk.remote_ds, b.id⟩ : Snapshot) ∈ chain.remote.snapshots
  fresh_rows : ∀ b ∈ chain.rows, b.id < chain.next
  fresh_remote : ∀ i, (⟨disk.remote_ds, i⟩ : Snapshot) ∈ chain.remote.snapshots → i < chain.next

/-- The newest backup in the destination can be continued, or the next backup archives
the destination. -/
def Continues (disk : Disk) (chain : Chain) : Prop :=
  ∀ run snap, (disk.args run chain.next).destination ∈ chain.node.datasets →
    newest (disk.args run chain.next) (.init chain.node chain.remote) = some snap →
    (⟨disk.remote_ds, snap.id⟩ : Snapshot) ∈ chain.remote.snapshots ∨
      ∀ response bkp, (ds_create run.host (disk.args run chain.next)).under run.fails (.init chain.node chain.remote) =
          (.ok response, bkp) → response.lookup "success" = some (.bool true) →
        bkp.node.snapshots = chain.node.snapshots.map (disk.args run chain.next).relocate ++
          [(disk.args run chain.next).backup_snapshot]

/-- A row after the two updates from a response. -/
def updated (update_snapshots : List (Snapshot × Snapshot)) (deleted : List Nat) (b : Backup) : Backup :=
  let b := match update_snapshots.reverse.find? fun entry => entry.1.id = b.id with
    | some entry => { b with file_path := .snapshot entry.2 }
    | none => b
  if b.id ∈ deleted then { b with last := false } else b

section updated

variable {update_snapshots : List (Snapshot × Snapshot)} {deleted : List Nat} {rows : List Backup}

@[simp] theorem updated_id (b : Backup) : (updated update_snapshots deleted b).id = b.id := by
  rw [updated]
  cases update_snapshots.reverse.find? fun entry => entry.1.id = b.id <;> dsimp only <;> split <;> rfl

theorem updated_last (b : Backup) :
    (updated update_snapshots deleted b).last = true ↔ b.last = true ∧ b.id ∉ deleted := by
  rw [updated]
  cases update_snapshots.reverse.find? fun entry => entry.1.id = b.id <;>
    by_cases hmem : b.id ∈ deleted <;> simp [hmem]

theorem updated_file_path (b : Backup) :
    (updated update_snapshots deleted b).file_path =
      match update_snapshots.reverse.find? fun entry => entry.1.id = b.id with
      | some entry => .snapshot entry.2
      | none => b.file_path := by
  rw [updated]
  cases update_snapshots.reverse.find? fun entry => entry.1.id = b.id <;> dsimp only <;> split <;> rfl

theorem rows_updated {data : Response} (hupdate : data.lookup "update_snapshots" = some (.renamed update_snapshots))
    (hdeleted : data.lookup "deleted_last_snapshot_names" = some (.names deleted)) :
    _vm_backup_deleted_last_snapshot_names data (_vm_backup_update_snapshots data .file_path rows) =
      rows.map (updated update_snapshots deleted) := by
  rw [_vm_backup_deleted_last_snapshot_names, hdeleted]
  simp only [_vm_backup_update_snapshots, hupdate, update_rows, List.map_map]
  apply List.map_congr_left
  intro b _
  rw [Function.comp_apply, updated]
  cases update_snapshots.reverse.find? fun entry => entry.1.id = b.id <;> rfl

end updated

section moved

variable {disk : Disk} {chain : Chain} {args : Args} {snapshots : List Snapshot}
  {update_snapshots : List (Snapshot × Snapshot)} {deleted : List Nat} {remote : Storage}

/-- The rows of the backups before the new one, as the response leaves them, for the
snapshots that are on the two hosts then. -/
structure Kept (disk : Disk) (chain : Chain) (rows : List Backup) (snapshots : List Snapshot) (remote : Storage) :
    Prop where
  ids : rows.map Backup.id = chain.rows.map Backup.id
  held : ∀ b ∈ rows, ∃ snap ∈ snapshots, snap.id = b.id ∧ b.file_path = .snapshot snap
  exact_ : ∀ snap ∈ snapshots, ∃ b ∈ rows, b.id = snap.id ∧ b.file_path = .snapshot snap
  last : ∀ b ∈ rows, b.last = true ↔ (⟨disk.remote_ds, b.id⟩ : Snapshot) ∈ remote.snapshots

theorem Chained.snapshot_eq (hchained : Chained disk chain) {snap snap' : Snapshot} (hsnap : snap ∈ chain.node.snapshots)
    (hsnap' : snap' ∈ chain.node.snapshots) (hid : snap.id = snap'.id) : snap = snap' := by
  obtain ⟨b, hb, hbid, hpath⟩ := hchained.exact_ snap hsnap
  obtain ⟨b', hb', hbid', hpath'⟩ := hchained.exact_ snap' hsnap'
  have hsame : b = b' := List.inj_on_of_nodup_map hchained.nodup hb hb' (by rw [hbid, hbid', hid])
  rw [hsame, hpath'] at hpath
  injection hpath with hpath
  exact hpath.symm

theorem relocate_id (snap : Snapshot) : (args.relocate snap).id = snap.id := by
  rw [Args.relocate]
  split <;> rfl

/-- The paths in the rows follow the snapshots. -/
theorem file_path_of_moved (deleted : List Nat) (hchained : Chained disk chain)
    (hmoved : Moved args chain.node snapshots update_snapshots) :
    ∃ move : Snapshot → Snapshot, (∀ snap, (move snap).id = snap.id) ∧ snapshots = chain.node.snapshots.map move ∧
      ∀ b ∈ chain.rows, ∀ snap ∈ chain.node.snapshots, snap.id = b.id → b.file_path = .snapshot snap →
        (updated update_snapshots deleted b).file_path = .snapshot (move snap) := by
  rcases hmoved with ⟨rfl, rfl⟩ | ⟨rfl, rfl⟩
  · refine ⟨id, fun _ => rfl, (List.map_id _).symm, fun b _ snap _ _ hpath => ?_⟩
    rw [updated_file_path]
    exact hpath
  · refine ⟨args.relocate, relocate_id, rfl, fun b _ snap hsnap hid hpath => ?_⟩
    rw [updated_file_path, ← List.map_reverse, List.find?_map]
    cases hfind : (chain.node.snapshots.filter (·.dataset = args.destination)).reverse.find?
        ((fun entry : Snapshot × Snapshot => decide (entry.1.id = b.id)) ∘ fun snap =>
          (snap, { snap with dataset := args.archive_ds })) with
    | none =>
      have hother : snap.dataset ≠ args.destination := by
        intro hdataset
        have hmem : snap ∈ (chain.node.snapshots.filter (·.dataset = args.destination)).reverse := by
          simp [hsnap, hdataset]
        have hno := List.find?_eq_none.mp hfind snap hmem
        simp [hid] at hno
      rw [Args.relocate, if_neg hother]
      exact hpath
    | some snap' =>
      have hfound := List.find?_some hfind
      have hmem := List.mem_of_find?_eq_some hfind
      simp only [Function.comp_apply, decide_eq_true_eq] at hfound
      simp only [List.mem_reverse, List.mem_filter, decide_eq_true_eq] at hmem
      have hsame : snap' = snap := hchained.snapshot_eq hmem.1 hsnap (hfound.trans hid.symm)
      rw [← hsame, Args.relocate, if_pos hmem.2]
      rfl

theorem Chained.kept (hchained : Chained disk chain) (hmoved : Moved args chain.node snapshots update_snapshots)
    (hpruned : ∀ i < chain.next, (⟨disk.remote_ds, i⟩ : Snapshot) ∈ remote.snapshots ↔
      (⟨disk.remote_ds, i⟩ : Snapshot) ∈ chain.remote.snapshots ∧ i ∉ deleted) :
    Kept disk chain (chain.rows.map (updated update_snapshots deleted)) snapshots remote := by
  obtain ⟨move, hmove, rfl, hpaths⟩ := file_path_of_moved deleted hchained hmoved
  constructor
  · rw [List.map_map]
    apply List.map_congr_left
    intro b _
    simp
  · intro b' hb'
    obtain ⟨b, hb, rfl⟩ := List.mem_map.mp hb'
    obtain ⟨snap, hsnap, hid, hpath⟩ := hchained.held b hb
    refine ⟨move snap, List.mem_map_of_mem hsnap, ?_, hpaths b hb snap hsnap hid hpath⟩
    rw [hmove, updated_id, hid]
  · intro snap' hsnap'
    obtain ⟨snap, hsnap, rfl⟩ := List.mem_map.mp hsnap'
    obtain ⟨b, hb, hid, hpath⟩ := hchained.exact_ snap hsnap
    refine ⟨_, List.mem_map_of_mem hb, ?_, hpaths b hb snap hsnap hid.symm hpath⟩
    rw [hmove, updated_id, hid]
  · intro b' hb'
    obtain ⟨b, hb, rfl⟩ := List.mem_map.mp hb'
    rw [updated_last, hchained.last b hb, updated_id, hpruned b.id (hchained.fresh_rows b hb)]

end moved

section callback

variable {rows : List Backup} {response : Response} {rc : Int} {id : Nat}
  {update_snapshots : List (Snapshot × Snapshot)} {deleted : List Nat}

theorem find_new_backup (hfresh : ∀ b ∈ rows, b.id < id) :
    (rows ++ [new_backup id]).find? (·.id = id) = some (new_backup id) := by
  have hnone : rows.find? (·.id = id) = none := by
    rw [List.find?_eq_none]
    intro b hb
    have hlt := hfresh b hb
    simp only [decide_eq_true_eq]
    omega
  rw [List.find?_append, hnone]
  simp [new_backup]

theorem vm_backup_cb_of_failure (rc : Int) (response : Response) (hfresh : ∀ b ∈ rows, b.id < id)
    (hupdate : (with_status rc false response).lookup "update_snapshots" = some (.renamed update_snapshots))
    (hdeleted : (with_status rc false response).lookup "deleted_last_snapshot_names" = some (.names deleted)) :
    vm_backup_cb ⟨rc, some (with_status rc false response)⟩ id (rows ++ [new_backup id]) =
      rows.map (updated update_snapshots deleted) := by
  have hsuccess : (with_status rc false response).lookup "success" = some (.bool false) := rfl
  rw [vm_backup_cb, find_new_backup hfresh]
  simp only [Option.getD_some, hsuccess, Bool.false_eq_true, and_false, if_false, new_backup, if_true]
  rw [rows_updated hupdate hdeleted, List.map_append, List.filter_append, List.map_cons, List.map_nil]
  have hnew : [updated update_snapshots deleted (new_backup id)].filter (fun b => decide (b.id ≠ id)) = [] := by
    simp [new_backup]
  have hold : (rows.map (updated update_snapshots deleted)).filter (fun b => decide (b.id ≠ id)) =
      rows.map (updated update_snapshots deleted) := by
    rw [List.filter_eq_self]
    intro b' hb'
    obtain ⟨b, hb, rfl⟩ := List.mem_map.mp hb'
    have hlt := hfresh b hb
    simp only [updated_id, decide_eq_true_eq]
    omega
  rw [new_backup] at hnew
  rw [hold, hnew, List.append_nil]

/-- The row of a new backup. -/
def created (args : Args) (size : Nat) (metadata_file : Option String) : Backup :=
  ⟨args.id, .DATASET, .snapshot args.backup_snapshot, metadata_file, .OK, some size, true⟩

theorem vm_backup_cb_of_success (args : Args) (size : Nat) (bkp : eslib.esbackup.create.Backup)
    (hfresh : ∀ b ∈ rows, b.id < args.id) :
    vm_backup_cb ⟨0, some (with_status 0 true (success_response args size bkp))⟩ args.id
        (rows ++ [new_backup args.id]) =
      rows.map (updated bkp.update_snapshots bkp.deleted_last_snapshot_names) ++
        [created args size bkp.metadata_file] := by
  rw [vm_backup_cb, find_new_backup hfresh]
  have hupdate : (with_status 0 true (success_response args size bkp)).lookup "update_snapshots" =
      some (.renamed bkp.update_snapshots) := rfl
  have hdeleted : (with_status 0 true (success_response args size bkp)).lookup "deleted_last_snapshot_names" =
      some (.names bkp.deleted_last_snapshot_names) := rfl
  have hsuccess : (with_status 0 true (success_response args size bkp)).lookup "success" = some (.bool true) := rfl
  have hpath : (with_status 0 true (success_response args size bkp)).lookup "backup_snapshot" =
      some (.path (.snapshot args.backup_snapshot)) := rfl
  have hsize : (with_status 0 true (success_response args size bkp)).lookup "backup_snapshot_size" =
      some (.int size) := rfl
  have hlast : (with_status 0 true (success_response args size bkp)).lookup "last_snapshot_name" =
      some (.name args.id) := rfl
  have hmetadata : (with_status 0 true (success_response args size bkp)).lookup "metadata_file" =
      some (metadata_value bkp.metadata_file) := rfl
  simp only [Option.getD_some, hsuccess, and_self, if_true, new_backup, hpath, hsize, hlast, hmetadata]
  rw [rows_updated hupdate hdeleted, List.map_append, List.map_append, List.map_cons, List.map_nil, List.map_cons,
    List.map_nil]
  congr 1
  · conv_rhs => rw [← List.map_id (rows.map _)]
    apply List.map_congr_left
    intro b' hb'
    obtain ⟨b, hb, rfl⟩ := List.mem_map.mp hb'
    have hlt := hfresh b hb
    rw [if_neg (by rw [updated_id]; omega)]
    rfl
  · rw [if_pos (by simp), created]
    cases bkp.metadata_file <;> rfl

end callback

section run

variable {disk : Disk} {chain : Chain}

/-- The backup does not fail after its stream has arrived. -/
def Chain.Completes (disk : Disk) (chain : Chain) (run : Run) : Prop :=
  eslib.esbackup.create.Completes (disk.args run chain.next) run.fails (.init chain.node chain.remote)

theorem untouched_init (node remote : Storage) : Untouched (.init node remote) (.init node remote) :=
  ⟨rfl, rfl, rfl, rfl, rfl, rfl⟩

theorem Kept.chained {rows : List Backup} {node remote : Storage} (hchained : Chained disk chain)
    (hkept : Kept disk chain rows node.snapshots remote)
    (hfresh : ∀ i, (⟨disk.remote_ds, i⟩ : Snapshot) ∈ remote.snapshots → i < chain.next + 1) :
    Chained disk ⟨rows, node, remote, chain.next + 1⟩ := by
  refine ⟨?_, hkept.held, hkept.exact_, hkept.last, ?_, hfresh⟩
  · rw [hkept.ids]
    exact hchained.nodup
  · intro b hb
    have hmem : b.id ∈ chain.rows.map Backup.id := by
      rw [← hkept.ids]
      exact List.mem_map_of_mem hb
    obtain ⟨b', hb', hid⟩ := List.mem_map.mp hmem
    have hlt := hchained.fresh_rows b' hb'
    change b.id < chain.next + 1
    omega

/-- The row of a new backup goes with its snapshots on the two hosts. -/
theorem Kept.chained_append {rows : List Backup} {snapshots : List Snapshot} {node remote : Storage} {b : Backup}
    (hchained : Chained disk chain) (hkept : Kept disk chain rows snapshots remote) {snap : Snapshot}
    (hid : b.id = chain.next) (hsnap : snap.id = b.id) (hpath : b.file_path = .snapshot snap) (hlast : b.last = true)
    (hnode : node.snapshots = snapshots ++ [snap])
    (hremote : (⟨disk.remote_ds, chain.next⟩ : Snapshot) ∈ remote.snapshots)
    (hfresh : ∀ i, (⟨disk.remote_ds, i⟩ : Snapshot) ∈ remote.snapshots → i < chain.next + 1) :
    Chained disk ⟨rows ++ [b], node, remote, chain.next + 1⟩ := by
  have hlt : ∀ b' ∈ rows, b'.id < chain.next := by
    intro b' hb'
    have hmem : b'.id ∈ chain.rows.map Backup.id := by
      rw [← hkept.ids]
      exact List.mem_map_of_mem hb'
    obtain ⟨old, hold, hsame⟩ := List.mem_map.mp hmem
    rw [← hsame]
    exact hchained.fresh_rows old hold
  refine ⟨?_, ?_, ?_, ?_, ?_, hfresh⟩
  · rw [List.map_append, hkept.ids, List.nodup_append]
    refine ⟨hchained.nodup, by simp, ?_⟩
    intro i hi j hj
    obtain ⟨old, hold, rfl⟩ := List.mem_map.mp hi
    rw [List.map_cons, List.map_nil, List.mem_singleton] at hj
    have hold := hchained.fresh_rows old hold
    omega
  · intro b' hb'
    change ∃ snap ∈ node.snapshots, _
    rw [hnode]
    rcases List.mem_append.mp hb' with hmem | hmem
    · obtain ⟨snap', hsnap', hid', hpath'⟩ := hkept.held b' hmem
      exact ⟨snap', List.mem_append_left _ hsnap', hid', hpath'⟩
    · rw [List.mem_singleton] at hmem
      subst hmem
      exact ⟨snap, by simp, hsnap, hpath⟩
  · intro snap' hsnap'
    change snap' ∈ node.snapshots at hsnap'
    rw [hnode] at hsnap'
    rcases List.mem_append.mp hsnap' with hmem | hmem
    · obtain ⟨b', hb', hid', hpath'⟩ := hkept.exact_ snap' hmem
      exact ⟨b', List.mem_append_left _ hb', hid', hpath'⟩
    · rw [List.mem_singleton] at hmem
      subst hmem
      exact ⟨b, by simp, hsnap.symm, hpath⟩
  · intro b' hb'
    rcases List.mem_append.mp hb' with hmem | hmem
    · exact hkept.last b' hmem
    · rw [List.mem_singleton] at hmem
      subst hmem
      rw [hid]
      exact iff_of_true hlast hremote
  · intro b' hb'
    change b'.id < chain.next + 1
    rcases List.mem_append.mp hb' with hmem | hmem
    · have h := hlt b' hmem
      omega
    · rw [List.mem_singleton] at hmem
      subst hmem
      omega

theorem Chained.vm_backup (hchained : Chained disk chain) {run : Run} (hcompletes : chain.Completes disk run) :
    Chained disk (chain.vm_backup disk run) := by
  have hfresh : (disk.args run chain.next).id ∉
      remote_ids (disk.args run chain.next) (.init chain.node chain.remote) := by
    intro hmem
    obtain ⟨snap, hsnap, hid⟩ := List.mem_map.mp hmem
    rw [List.mem_filter, decide_eq_true_eq] at hsnap
    have hlt := hchained.fresh_remote snap.id (by rw [show disk.remote_ds = snap.dataset from hsnap.2.symm]; exact hsnap.1)
    have hnext : snap.id = chain.next := hid
    omega
  rw [Chain.vm_backup]
  rcases under_ds_create run.host hfresh (untouched_init _ _) hcompletes with
    ⟨size, bkp, hrun, htransferred⟩ | ⟨rc, response, bkp, hrun, hfailed, hupdate, hdeleted⟩
  · rw [hrun, output_of_response]
    obtain ⟨snapshots, hmoved, hnode⟩ := htransferred.moved
    have hpruned : ∀ i, (⟨disk.remote_ds, i⟩ : Snapshot) ∈ bkp.remote.snapshots ↔
        ((⟨disk.remote_ds, i⟩ : Snapshot) ∈ chain.remote.snapshots ∧ i ∉ bkp.deleted_last_snapshot_names) ∨
          chain.next = i := by
      intro i
      have h := htransferred.pruned i
      rw [htransferred.last, Option.some.injEq] at h
      exact h
    have hkept : Kept disk chain (chain.rows.map (updated bkp.update_snapshots bkp.deleted_last_snapshot_names))
        snapshots bkp.remote := by
      refine hchained.kept hmoved fun i hi => ?_
      rw [hpruned i]
      constructor
      · rintro (hmem | hnew)
        · exact hmem
        · omega
      · exact Or.inl
    have hcallback := vm_backup_cb_of_success (disk.args run chain.next) size bkp hchained.fresh_rows
    change Chained disk ⟨vm_backup_cb ⟨0, some (with_status 0 true (success_response (disk.args run chain.next) size bkp))⟩
      (disk.args run chain.next).id (chain.rows ++ [new_backup (disk.args run chain.next).id]), _, _, _⟩
    rw [hcallback]
    refine hkept.chained_append hchained rfl rfl rfl rfl hnode ((hpruned _).mpr (.inr rfl)) fun i hi => ?_
    rcases (hpruned i).mp hi with hmem | hnew
    · have hlt := hchained.fresh_remote i hmem.1
      omega
    · omega
  · rw [hrun, output_of_response]
    have hpruned : ∀ i, i ≠ chain.next → ((⟨disk.remote_ds, i⟩ : Snapshot) ∈ bkp.remote.snapshots ↔
        (⟨disk.remote_ds, i⟩ : Snapshot) ∈ chain.remote.snapshots ∧ i ∉ bkp.deleted_last_snapshot_names) :=
      hfailed.pruned
    have hkept := hchained.kept hfailed.moved fun i hi => hpruned i (by omega)
    have hcallback := vm_backup_cb_of_failure rc response hchained.fresh_rows hupdate hdeleted
    dsimp only
    rw [hcallback]
    refine hkept.chained hchained fun i hi => ?_
    by_cases hnew : i = chain.next
    · omega
    · have hlt := hchained.fresh_remote i ((hpruned i hnew).mp hi).1
      omega

theorem continues (disk : Disk) (chain : Chain) : Continues disk chain := by
  intro run snap hdestination hnewest
  by_cases hcommon : (⟨disk.remote_ds, snap.id⟩ : Snapshot) ∈ chain.remote.snapshots
  · exact .inl hcommon
  · refine .inr fun response bkp hrun hsuccess => ?_
    refine archives_of_success (untouched_init _ _) hdestination hnewest (fun hmem => hcommon ?_) hrun hsuccess
    obtain ⟨snap', hsnap', hid⟩ := List.mem_map.mp hmem
    rw [List.mem_filter, decide_eq_true_eq] at hsnap'
    have hsame : (⟨disk.remote_ds, snap.id⟩ : Snapshot) = snap' := by
      rw [← hid]
      exact congrArg (Snapshot.mk · snap'.id) hsnap'.2.symm
    rw [hsame]
    exact hsnap'.1

/-- The backups of a disk, one after another. -/
def Chain.vm_backups (disk : Disk) (chain : Chain) (runs : List Run) : Chain := runs.foldl (Chain.vm_backup disk) chain

/-- No backup of the sequence fails after its stream has arrived. -/
def AllComplete (disk : Disk) : Chain → List Run → Prop
  | _, [] => True
  | chain, run :: runs => chain.Completes disk run ∧ AllComplete disk (chain.vm_backup disk run) runs

/-- The table, the backup node and the source agree after every backup. -/
theorem backups_chained (disk : Disk) (chain : Chain) (hchained : Chained disk chain) (runs : List Run)
    (hcomplete : AllComplete disk chain runs) :
    Chained disk (chain.vm_backups disk runs) ∧ Continues disk (chain.vm_backups disk runs) := by
  refine ⟨?_, continues disk _⟩
  induction runs generalizing chain with
  | nil => exact hchained
  | cons run runs ih => exact ih _ (hchained.vm_backup hcomplete.1) hcomplete.2

end run

section runs

/-- A disk without backups. -/
def no_backups : Chain := ⟨[], ⟨[["zones", "backups", "ds"]], [], []⟩, ⟨[["zones", "vm"]], [], []⟩, 1⟩

def vm_disk : Disk := ⟨["zones", "vm"], ["zones", "backups", "ds", "vm"]⟩

/-- A backup in which at most one command fails. -/
def run_failing (step : Option Step) : Run := ⟨fun step' => step = some step', ⟨fun _ => 1, fun _ _ => 0⟩, none, 0⟩

theorem no_backups_chained : Chained vm_disk no_backups where
  nodup := List.nodup_nil
  held := by simp [no_backups]
  exact_ := by simp [no_backups]
  last := by simp [no_backups]
  fresh_rows := by simp [no_backups]
  fresh_remote := by simp [no_backups]

theorem two_backups_chained :
    Chained vm_disk (no_backups.vm_backups vm_disk [run_failing none, run_failing (some .destroy_incr)]) ∧
      Continues vm_disk (no_backups.vm_backups vm_disk [run_failing none, run_failing (some .destroy_incr)]) :=
  backups_chained vm_disk no_backups no_backups_chained [run_failing none, run_failing (some .destroy_incr)]
    ⟨fun _ _ => ⟨rfl, fun _ => rfl⟩, fun _ _ => ⟨rfl, fun _ => rfl⟩, trivial⟩

/-- The first backup fails when its dataset is made read-only: the row is deleted, and the
snapshot stays on the backup node. -/
theorem first_backup_not_chained :
    Chained vm_disk no_backups ∧ ¬ Chained vm_disk (no_backups.vm_backup vm_disk (run_failing (some .set_readonly))) := by
  refine ⟨no_backups_chained, fun hchained => ?_⟩
  have hsnap : (⟨["zones", "backups", "ds", "vm"], 1⟩ : Snapshot) ∈
      (no_backups.vm_backup vm_disk (run_failing (some .set_readonly))).node.snapshots := by decide +kernel
  have hrows : (no_backups.vm_backup vm_disk (run_failing (some .set_readonly))).rows = [] := by decide +kernel
  obtain ⟨b, hb, _⟩ := hchained.exact_ _ hsnap
  rw [hrows] at hb
  cases hb

end runs

end api.vm.backup

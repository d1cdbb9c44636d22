import Mathlib
import Esdc.Api.Vm.UpdateCommand

namespace api.vm.update_command

open shell (Token Builtin Command parse run start seqs)
open vms.definition (Item)

/-- What the shell runs itself, with the variable `e`. -/
def builtin : List String → Option Builtin
  | ["e=$?"] => some .set_status
  | ["e=$((e+=$?))"] => some .add_status
  | ["exit", "$e"] => some .exit_var
  | ["exit", "9"] => some (.exit 9)
  | _ => none

/-- The sizes of a disk that are changed by commands. -/
def fixups_of (vm : Vm) (disk : Item) : List (List String) :=
  let target := match disk.lookup "path" with
    | some (.str path) => zfs_filesystem path
    | _ => ""
  let resize := (disk.lookup "size").toList.map fun size => ["zfs", "set", "volsize=" ++ (text size ++ "M"), target]
  let refres := (disk.lookup "refreservation").toList.map fun refr =>
    ["zfs", "set", "refreservation=" ++ (text refr ++ "M"), target]
  resize ++ if vm.is_bhyve then [] else refres

/-- The commands that an update needs besides `vmadm update`, the quota first when the disks grow. -/
def fixups (vm : Vm) (disks : List Item) : List (List String) :=
  let quota := ["zfs", "set", "quota=" ++ vm.zfs_snapshot_quota, vm.zpool ++ "/" ++ vm.uuid]
  let sizes := disks.flatMap (fixups_of vm)
  if vm.is_bhyve ∧ (disks ≠ [] ∨ vm.snapshot_quota_update_pending) then
    if vm.disk_active < vm.disk then quota :: sizes else sizes ++ [quota]
  else sizes

def vmadm_update (vm : Vm) : List String := ["vmadm", "update", vm.uuid]

/-- The commands that the line is there for, in their order. -/
def intended (vm : Vm) : List (List String) := fixups vm (vm.update_disks.getD []) ++ [vmadm_update vm]

/-- The line has no syntax error, runs the intended commands in their order unless the VM could not be stopped
before, and fails when one of them does. -/
def Sound (vm : Vm) (line : List Token) : Prop :=
  ∃ c, parse line = some c ∧ ∀ env,
    let s := run builtin env c start
    ((s.trace.map Prod.fst).filter (· ∈ intended vm) = intended vm ∨
      (s.trace.map Prod.fst).filter (· ∈ intended vm) = [] ∧
        ∃ e ∈ s.trace, ["vmadm", "stop", vm.uuid] <+: e.1 ∧ e.2 ≠ 0) ∧
    ∀ e ∈ s.trace, e.1 ∈ intended vm → e.2 ≠ 0 → s.exit_status ≠ 0

/-- The disk has a new size or a new reservation that is not left alone. -/
def Resized (vm : Vm) (disk : Item) : Prop := "size" ∈ disk ∨ "refreservation" ∈ disk ∧ ¬ vm.is_bhyve

/-- The quota of a BHYVE VM may change. -/
def Requoted (vm : Vm) (disks : List Item) : Prop :=
  vm.is_bhyve ∧ (disks ≠ [] ∨ vm.snapshot_quota_update_pending)

/-- The update is more than what `vmadm update` can do. -/
def NeedsFix (vm : Vm) : Prop :=
  ∃ disks, vm.update_disks = some disks ∧ ((∃ disk ∈ disks, Resized vm disk) ∨ Requoted vm disks)

def Request.is_stop : Request → Prop
  | .stop _ _ => True
  | _ => False

section fix_update

variable {vm : Vm}

/-- Nothing, or something that begins with a separator. -/
def Fragment (cmd : List Token) (some_ : Prop) : Prop := cmd = [] ∧ ¬ some_ ∨ (∃ rest, cmd = .semi :: rest) ∧ some_

theorem Fragment.append {cmd cmd' : List Token} {p q : Prop} (hcmd : Fragment cmd p) (hcmd' : Fragment cmd' q) :
    Fragment (cmd ++ cmd') (p ∨ q) := by
  rcases hcmd with ⟨rfl, hp⟩ | ⟨⟨rest, rfl⟩, hp⟩
  · rcases hcmd' with ⟨rfl, hq⟩ | ⟨⟨rest, rfl⟩, hq⟩
    · exact Or.inl ⟨rfl, not_or.mpr ⟨hp, hq⟩⟩
    · exact Or.inr ⟨⟨rest, rfl⟩, Or.inr hq⟩
  · exact Or.inr ⟨⟨_, rfl⟩, Or.inl hp⟩

theorem fragment_zfs_set (property value target : String) {p : Prop} (hp : p) :
    Fragment (zfs_set property value target) p := Or.inr ⟨⟨_, rfl⟩, hp⟩

theorem fragment_fix_disk {disk disk' : Item} {cmd : List Token} (hfix : fix_disk vm disk = some (disk', cmd)) :
    Fragment cmd (Resized vm disk) := by
  unfold fix_disk at hfix
  split at hfix
  · obtain ⟨-, rfl⟩ := Prod.mk.inj (Option.some.inj hfix)
    apply Fragment.append
    · cases hsize : disk.lookup "size" with
      | none => exact Or.inl ⟨rfl, AList.lookup_eq_none.mp hsize⟩
      | some size => exact fragment_zfs_set _ _ _ (AList.lookup_isSome.mp (by rw [hsize]; rfl))
    · cases hrefr : disk.lookup "refreservation" with
      | none => exact Or.inl ⟨rfl, fun hmem => AList.lookup_eq_none.mp hrefr hmem.1⟩
      | some refr =>
        simp only
        split
        · case isTrue hbhyve => exact Or.inl ⟨rfl, fun hmem => hmem.2 hbhyve⟩
        · case isFalse hbhyve =>
          exact fragment_zfs_set _ _ _ ⟨AList.lookup_isSome.mp (by rw [hrefr]; rfl), hbhyve⟩
  · cases hfix

theorem fragment_fix_disks {disks : List Item} {fixed : List (Item × List Token)}
    (hfix : disks.mapM (fix_disk vm) = some fixed) :
    Fragment (fixed.map Prod.snd).flatten (∃ disk ∈ disks, Resized vm disk) := by
  induction disks generalizing fixed with
  | nil =>
    obtain rfl := Option.some.inj hfix
    exact Or.inl ⟨rfl, by simp⟩
  | cons disk disks ih =>
    rw [List.mapM_cons] at hfix
    obtain ⟨⟨disk', cmd⟩, hdisk, hfix⟩ := Option.bind_eq_some_iff.mp hfix
    obtain ⟨rest, hrest, hfix⟩ := Option.bind_eq_some_iff.mp hfix
    obtain rfl := Option.some.inj hfix
    have happend := (fragment_fix_disk hdisk).append (ih hrest)
    simpa only [List.map_cons, List.flatten_cons, List.exists_mem_cons_iff] using happend

/-- The commands of an update are nothing, or something that begins with a separator. -/
theorem fragment_fix_update {disks disks' : List Item} {cmd : List Token}
    (hfix : fix_update vm disks = some (disks', cmd)) :
    Fragment cmd ((∃ disk ∈ disks, Resized vm disk) ∨ Requoted vm disks) := by
  obtain ⟨fixed, hfixed, hfix⟩ := Option.map_eq_some_iff.mp hfix
  have hsizes := fragment_fix_disks hfixed
  simp only at hfix
  split at hfix
  · case isTrue hquota =>
    have hset : Fragment (zfs_set "quota" vm.zfs_snapshot_quota (vm.zpool ++ "/" ++ vm.uuid)) (Requoted vm disks) :=
      fragment_zfs_set _ _ _ hquota
    split at hfix
    · obtain ⟨-, rfl⟩ := Prod.mk.inj hfix
      rw [or_comm]
      exact hset.append hsizes
    · obtain ⟨-, rfl⟩ := Prod.mk.inj hfix
      exact hsizes.append hset
  · case isFalse hquota =>
    obtain ⟨-, rfl⟩ := Prod.mk.inj hfix
    have hnone : Fragment [] (Requoted vm disks) := Or.inl ⟨rfl, hquota⟩
    simpa only [List.append_nil] using hsizes.append hnone

theorem fixups_eq_nil {disks : List Item} (hnone : ¬ ((∃ disk ∈ disks, Resized vm disk) ∨ Requoted vm disks)) :
    fixups vm disks = [] := by
  obtain ⟨hsizes, hquota⟩ := not_or.mp hnone
  have hsame : disks.flatMap (fixups_of vm) = [] := by
    rw [List.flatMap_eq_nil_iff]
    intro disk hdisk
    have hnot : ¬ Resized vm disk := fun hresized => hsizes ⟨disk, hdisk, hresized⟩
    obtain ⟨hsize, hrefr⟩ := not_or.mp hnot
    rw [fixups_of, AList.lookup_eq_none.mpr hsize]
    by_cases hbhyve : vm.is_bhyve = true
    · rw [if_pos hbhyve]
      rfl
    · rw [if_neg hbhyve, AList.lookup_eq_none.mpr fun hmem => hrefr ⟨hmem, hbhyve⟩]
      rfl
  have hquota : ¬ (vm.is_bhyve = true ∧ (disks ≠ [] ∨ vm.snapshot_quota_update_pending = true)) := hquota
  rw [fixups, if_neg hquota, hsame]

theorem intended_eq (hnone : ¬ NeedsFix vm) {disks : List Item} (hdisks : vm.update_disks = some disks) :
    intended vm = [vmadm_update vm] := by
  rw [intended, hdisks, Option.getD_some, fixups_eq_nil fun hsome => hnone ⟨disks, hdisks, hsome⟩, List.nil_append]

end fix_update

section sound

/-- `vmadm update` has been executed last and its status is known, or it has not, since the VM could not be stopped. -/
def Updated (vm : Vm) (s : shell.State) : Prop :=
  s.status < 256 ∧ ∃ before, vmadm_update vm ∉ before.map Prod.fst ∧
    (s.trace = before ++ [(vmadm_update vm, s.status)] ∨
      s.trace = before ∧ ∃ e ∈ before, ["vmadm", "stop", vm.uuid] <+: e.1 ∧ e.2 ≠ 0)

variable {vm : Vm} {line : List Token} {first : Command} {record : List String} {items : List Command}

/-- A line that records the status of its first command and exits with it. -/
theorem sound_of_parse (hintended : intended vm = [vmadm_update vm])
    (hparse : parse line = some (seqs first (.simple record :: items ++ [.simple ["exit", "$e"]])))
    (hrecord : builtin record = some .set_status ∨ builtin record = some .add_status)
    (hitems : ∀ c ∈ items, c.Quiet builtin ∧ vmadm_update vm ∉ c.words) (hquiet : first.Quiet builtin)
    (hfirst : ∀ env, Updated vm (run builtin env first start)) : Sound vm line := by
  refine ⟨_, hparse, fun env => ?_⟩
  obtain ⟨hstatus, before, hbefore, htrace⟩ := hfirst env
  have hexit_var : builtin ["exit", "$e"] = some .exit_var := rfl
  obtain ⟨hexit, more, hmore, hwords⟩ :=
    shell.run_recorded builtin env hrecord hexit_var (fun c hc => (hitems c hc).1) (s := start) rfl hquiet rfl
  have hafter : vmadm_update vm ∉ more.map Prod.fst := by
    intro hmem
    obtain ⟨e, he, heq⟩ := List.mem_map.mp hmem
    obtain ⟨c, hc, hcwords⟩ := hwords e he
    exact (hitems c hc).2 (heq ▸ hcwords)
  have hnone : ∀ trace : List (List String × ℕ), vmadm_update vm ∉ trace.map Prod.fst →
      (trace.map Prod.fst).filter (· ∈ intended vm) = [] := by
    intro trace hnot
    rw [List.filter_eq_nil_iff]
    intro words hmem hin
    rw [hintended, decide_eq_true_eq, List.mem_singleton] at hin
    exact hnot (hin ▸ hmem)
  simp only
  rw [hmore, hexit, Nat.mod_eq_of_lt hstatus]
  rcases htrace with htrace | ⟨htrace, e, he, hstop, hfailed⟩
  · constructor
    · left
      rw [htrace, List.map_append, List.filter_append, List.map_append, List.filter_append, hnone _ hbefore,
        hnone _ hafter, hintended]
      simp
    · intro e he hin hne
      rw [hintended, List.mem_singleton] at hin
      rw [htrace, List.mem_append, List.mem_append, List.mem_singleton] at he
      rcases he with (he | rfl) | he
      · exact absurd (hin ▸ List.mem_map_of_mem he) hbefore
      · exact hne
      · exact absurd (hin ▸ List.mem_map_of_mem he) hafter
  · constructor
    · right
      rw [htrace, List.map_append, List.filter_append, hnone _ hbefore, hnone _ hafter]
      exact ⟨rfl, e, List.mem_append_left _ he, hstop, hfailed⟩
    · intro e' he' hin _
      rw [hintended, List.mem_singleton] at hin
      rw [htrace, List.mem_append] at he'
      rcases he' with he' | he'
      · exact absurd (hin ▸ List.mem_map_of_mem he') hbefore
      · exact absurd (hin ▸ List.mem_map_of_mem he') hafter

theorem updated_alone (env : List (List String × ℕ) → List String → Fin 256) :
    Updated vm (run builtin env (.simple (vmadm_update vm)) start) :=
  ⟨(env [] (vmadm_update vm)).isLt, [], List.not_mem_nil, Or.inl rfl⟩

theorem updated_after_stop (options : List String) (env : List (List String × ℕ) → List String → Fin 256) :
    Updated vm (run builtin env (.and_then (.simple ("vmadm" :: "stop" :: vm.uuid :: options))
      (.simple (vmadm_update vm))) start) := by
  have hstop : run builtin env (.simple ("vmadm" :: "stop" :: vm.uuid :: options)) start =
      { start with
        status := env [] ("vmadm" :: "stop" :: vm.uuid :: options)
        trace := [("vmadm" :: "stop" :: vm.uuid :: options, env [] ("vmadm" :: "stop" :: vm.uuid :: options))] } := rfl
  have hother : vmadm_update vm ∉ [("vmadm" :: "stop" :: vm.uuid :: options,
      (env [] ("vmadm" :: "stop" :: vm.uuid :: options) : ℕ))].map Prod.fst := by
    simp [vmadm_update]
  rw [shell.run, hstop]
  by_cases hstopped : (env [] ("vmadm" :: "stop" :: vm.uuid :: options) : ℕ) = 0
  · rw [if_neg (by simp [start, hstopped])]
    exact ⟨Fin.isLt _, _, hother, Or.inl rfl⟩
  · rw [if_pos (Or.inr hstopped)]
    exact ⟨Fin.isLt _, _, hother, Or.inr ⟨rfl, _, List.mem_singleton_self _, ⟨options, rfl⟩, hstopped⟩⟩

end sound

section lines

variable {vm : Vm} {line : List Token}

/-- The end of the line of `VmManage.put`. -/
def put_cmd (vm : Vm) : List Token :=
  [.word "vmadm", .word "update", .word vm.uuid, .redirect ">&2", .semi, .word "e=$((e+=$?))",
    .semi, .word "vmadm", .word "get", .word vm.uuid, .redirect "2>/dev/null", .semi, .word "exit", .word "$e"]

/-- The end of a line of `VmStatus.put`. -/
def status_cmd (vm : Vm) (orig_cmd : List Token) : List Token :=
  [.word "vmadm", .word "update", .word vm.uuid, .redirect ">&2", .semi, .word "e=$?",
    .semi, .word "vmadm", .word "get", .word vm.uuid, .redirect "2>/dev/null", .semi] ++ orig_cmd ++
      .semi :: words ["exit", "$e"]

theorem put_cases (hline : VmManage.put vm = .ok line) : ∃ disks cmd, vm.update_disks = some disks ∧
    Fragment cmd ((∃ disk ∈ disks, Resized vm disk) ∨ Requoted vm disks) ∧ line = cmd ++ put_cmd vm := by
  unfold VmManage.put at hline
  cases hdisks : vm.update_disks with
  | none =>
    rw [hdisks] at hline
    cases hline
  | some disks =>
    rw [hdisks, Option.bind_some] at hline
    cases hfix : fix_update vm disks with
    | none =>
      rw [hfix] at hline
      cases hline
    | some fixed =>
      obtain ⟨disks', cmd⟩ := fixed
      rw [hfix] at hline
      refine ⟨disks, cmd, rfl, fragment_fix_update hfix, ?_⟩
      unfold validate_update at hline
      simp only at hline
      split at hline
      · cases hline
      · cases hline
        rfl

theorem add_update_cases {orig_cmd pre_cmd : List Token} {os_cmd_allowed : Bool}
    (hline : VmStatus._add_update_cmd vm orig_cmd os_cmd_allowed pre_cmd = .ok line) :
    ∃ disks cmd, vm.update_disks = some disks ∧
      Fragment cmd ((∃ disk ∈ disks, Resized vm disk) ∨ Requoted vm disks) ∧ (os_cmd_allowed = false → cmd = []) ∧
      line = if pre_cmd ≠ [] then pre_cmd ++ .and_if :: (cmd ++ status_cmd vm orig_cmd)
        else cmd ++ status_cmd vm orig_cmd := by
  unfold VmStatus._add_update_cmd at hline
  cases hdisks : vm.update_disks with
  | none =>
    rw [hdisks] at hline
    cases hline
  | some disks =>
    rw [hdisks, Option.bind_some] at hline
    cases hfix : fix_update vm disks with
    | none =>
      rw [hfix] at hline
      cases hline
    | some fixed =>
      obtain ⟨disks', cmd⟩ := fixed
      rw [hfix] at hline
      have hcmd : (os_cmd_allowed = false → cmd = []) ∧
          line = if pre_cmd ≠ [] then pre_cmd ++ .and_if :: (cmd ++ status_cmd vm orig_cmd)
            else cmd ++ status_cmd vm orig_cmd := by
        unfold validate_update at hline
        simp only at hline
        by_cases hempty : cmd = []
        · subst hempty
          rw [if_neg (not_not_intro rfl)] at hline
          cases hline
          exact ⟨fun _ => rfl, rfl⟩
        · rw [if_pos hempty] at hline
          cases os_cmd_allowed with
          | false => cases hline
          | true =>
            refine ⟨nofun, ?_⟩
            rw [if_pos rfl] at hline
            split at hline
            · cases hline
            · cases hline
              simp only [status_cmd, List.append_assoc]
      exact ⟨disks, cmd, rfl, fragment_fix_update hfix, hcmd⟩

/-- The line of a start, with its images. -/
theorem start_items (vm : Vm) (iso : Option (String × Option String)) (once : Bool) : ∃ items,
    parse (status_cmd vm (VmStatus._start_cmd vm iso once)) =
      some (seqs (.simple (vmadm_update vm)) (.simple ["e=$?"] :: (.simple ["vmadm", "get", vm.uuid] :: items) ++
        [.simple ["exit", "$e"]])) ∧
    ∀ c ∈ items, c.Quiet builtin ∧ vmadm_update vm ∉ c.words := by
  unfold VmStatus._start_cmd
  cases iso with
  | none =>
    refine ⟨[_], rfl, ?_⟩
    simp [Command.Quiet, Command.words, builtin, vmadm_update, shell.Frame.empty]
  | some images =>
    obtain ⟨iso, iso2⟩ := images
    unfold VmStatus.vmadm_start
    simp only
    cases iso2 with
    | none =>
      split
      · refine ⟨[_, _, _], rfl, ?_⟩
        simp [Command.Quiet, Command.words, builtin, vmadm_update, shell.Frame.empty]
      · split
        · refine ⟨[_, _, _], rfl, ?_⟩
          simp [Command.Quiet, Command.words, builtin, vmadm_update, shell.Frame.empty]
        · refine ⟨[_, _, _], rfl, ?_⟩
          simp [Command.Quiet, Command.words, builtin, vmadm_update, shell.Frame.empty]
    | some iso2 =>
      split
      · refine ⟨[_, _, _, _], rfl, ?_⟩
        simp [Command.Quiet, Command.words, builtin, vmadm_update, shell.Frame.empty]
      · split
        · refine ⟨[_, _, _, _], rfl, ?_⟩
          simp [Command.Quiet, Command.words, builtin, vmadm_update, shell.Frame.empty]
        · refine ⟨[_, _, _, _], rfl, ?_⟩
          simp [Command.Quiet, Command.words, builtin, vmadm_update, shell.Frame.empty]

/-- The stop before an update, with its options. -/
theorem action_cmd_eq (vm : Vm) (action : String) (force : Bool) (timeout : Option ℤ) : ∃ options,
    VmStatus._action_cmd vm action force timeout = ("vmadm" :: action :: vm.uuid :: options).map Token.word := by
  unfold VmStatus._action_cmd words
  rw [← List.map_append]
  exact ⟨_, rfl⟩

theorem sound_put (hintended : intended vm = [vmadm_update vm]) : Sound vm (put_cmd vm) := by
  have hparse : parse (put_cmd vm) = some (seqs (.simple (vmadm_update vm)) (.simple ["e=$((e+=$?))"] ::
      [.simple ["vmadm", "get", vm.uuid]] ++ [.simple ["exit", "$e"]])) := rfl
  refine sound_of_parse hintended hparse (Or.inr rfl) ?_ rfl updated_alone
  intro c hc
  rw [List.mem_singleton.mp hc]
  exact ⟨rfl, by simp [Command.words, vmadm_update]⟩

theorem sound_start (hintended : intended vm = [vmadm_update vm]) (iso : Option (String × Option String)) (once : Bool) :
    Sound vm (status_cmd vm (VmStatus._start_cmd vm iso once)) := by
  obtain ⟨items, hparse, hitems⟩ := start_items vm iso once
  refine sound_of_parse hintended hparse (Or.inl rfl) ?_ rfl updated_alone
  intro c hc
  rcases List.mem_cons.mp hc with rfl | hc
  · exact ⟨rfl, by simp [Command.words, vmadm_update]⟩
  · exact hitems c hc

theorem sound_reboot (hintended : intended vm = [vmadm_update vm]) (force : Bool) (timeout : Option ℤ) :
    Sound vm (VmStatus._action_cmd vm "stop" force timeout ++
      .and_if :: status_cmd vm (VmStatus._action_cmd vm "start" false none)) := by
  obtain ⟨options, hstop⟩ := action_cmd_eq vm "stop" force timeout
  have hparse : parse (("vmadm" :: "stop" :: vm.uuid :: options).map Token.word ++
        .and_if :: status_cmd vm (VmStatus._action_cmd vm "start" false none)) =
      some (seqs (.and_then (.simple ("vmadm" :: "stop" :: vm.uuid :: options)) (.simple (vmadm_update vm)))
        (.simple ["e=$?"] :: [.simple ["vmadm", "get", vm.uuid], .simple ["vmadm", "start", vm.uuid]] ++
          [.simple ["exit", "$e"]])) := by
    rw [shell.parse_words]
    rfl
  rw [hstop]
  refine sound_of_parse hintended hparse (Or.inl rfl) ?_ ⟨rfl, rfl⟩ (updated_after_stop options)
  intro c hc
  rcases List.mem_pair.mp hc with rfl | rfl
  · exact ⟨rfl, by simp [Command.words, vmadm_update]⟩
  · exact ⟨rfl, by simp [Command.words, vmadm_update]⟩

theorem not_sound_of_parse (hparse : parse line = none) : ¬ Sound vm line := by
  rintro ⟨c, hc, -⟩
  rw [hparse] at hc
  cases hc

/-- A line cannot begin with a separator. -/
theorem not_sound_semi (rest : List Token) : ¬ Sound vm (.semi :: rest) :=
  have hbegin : ([] : List Token).foldlM shell.shift (shell.Frame.empty, []) = some (shell.Frame.empty, []) := rfl
  not_sound_of_parse (shell.parse_eq_none_of_semi hbegin rfl)

/-- Nor can what comes after the stop. -/
theorem not_sound_stop_semi (force : Bool) (timeout : Option ℤ) (rest : List Token) :
    ¬ Sound vm (VmStatus._action_cmd vm "stop" force timeout ++ .and_if :: .semi :: rest) := by
  obtain ⟨options, hstop⟩ := action_cmd_eq vm "stop" force timeout
  apply not_sound_of_parse
  rw [hstop, shell.parse_words]
  rfl

/-- Nothing comes between the last separators when the VM is only stopped. -/
theorem not_sound_stop (force : Bool) (timeout : Option ℤ) :
    ¬ Sound vm (VmStatus._action_cmd vm "stop" force timeout ++ .and_if :: status_cmd vm []) := by
  obtain ⟨options, hstop⟩ := action_cmd_eq vm "stop" force timeout
  apply not_sound_of_parse
  rw [hstop, shell.parse_words]
  rfl

end lines

section command

variable {vm : Vm} {line : List Token}

theorem needsFix_iff {disks : List Item} (hdisks : vm.update_disks = some disks) :
    NeedsFix vm ↔ (∃ disk ∈ disks, Resized vm disk) ∨ Requoted vm disks := by
  constructor
  · rintro ⟨disks', hdisks', hneeds⟩
    obtain rfl := Option.some.inj (hdisks.symm.trans hdisks')
    exact hneeds
  · exact fun hneeds => ⟨disks, hdisks, hneeds⟩

theorem fragment_needsFix {disks : List Item} {cmd : List Token} (hdisks : vm.update_disks = some disks)
    (hcmd : Fragment cmd ((∃ disk ∈ disks, Resized vm disk) ∨ Requoted vm disks)) :
    cmd = [] ∧ ¬ NeedsFix vm ∧ intended vm = [vmadm_update vm] ∨ (∃ rest, cmd = .semi :: rest) ∧ NeedsFix vm := by
  rw [← needsFix_iff hdisks] at hcmd
  rcases hcmd with ⟨hempty, hnone⟩ | hcmd
  · exact Or.inl ⟨hempty, hnone, intended_eq hnone hdisks⟩
  · exact Or.inr hcmd

theorem action_cmd_ne_nil (action : String) (force : Bool) (timeout : Option ℤ) :
    VmStatus._action_cmd vm action force timeout ≠ [] := by
  obtain ⟨options, haction⟩ := action_cmd_eq vm action force timeout
  rw [haction]
  exact List.cons_ne_nil _ _

/-- A line does what it is for if and only if it needs no other command than `vmadm update` and does not only stop
the VM. -/
theorem line_sound_iff (request : Request) (hline : command vm request = .ok line) :
    Sound vm line ↔ ¬ NeedsFix vm ∧ ¬ request.is_stop := by
  cases request with
  | put =>
    obtain ⟨disks, cmd, hdisks, hcmd, rfl⟩ := put_cases hline
    rcases fragment_needsFix hdisks hcmd with ⟨rfl, hnone, hintended⟩ | ⟨⟨rest, rfl⟩, hneeds⟩
    · exact ⟨fun _ => ⟨hnone, id⟩, fun _ => sound_put hintended⟩
    · exact ⟨fun hsound => absurd hsound (not_sound_semi _), fun h => absurd hneeds h.1⟩
  | start iso once =>
    obtain ⟨disks, cmd, hdisks, hcmd, hempty, rfl⟩ := add_update_cases hline
    obtain rfl := hempty rfl
    rcases fragment_needsFix hdisks hcmd with ⟨-, hnone, hintended⟩ | ⟨⟨rest, hrest⟩, -⟩
    · exact ⟨fun _ => ⟨hnone, id⟩, fun _ => sound_start hintended iso once⟩
    · cases hrest
  | stop force timeout =>
    obtain ⟨disks, cmd, hdisks, hcmd, -, rfl⟩ := add_update_cases hline
    rw [if_pos (action_cmd_ne_nil _ _ _)]
    refine ⟨fun hsound => absurd hsound ?_, fun h => absurd trivial h.2⟩
    rcases fragment_needsFix hdisks hcmd with ⟨rfl, -, -⟩ | ⟨⟨rest, rfl⟩, -⟩
    · exact not_sound_stop force timeout
    · exact not_sound_stop_semi force timeout _
  | reboot force timeout =>
    obtain ⟨disks, cmd, hdisks, hcmd, -, rfl⟩ := add_update_cases hline
    rw [if_pos (action_cmd_ne_nil _ _ _)]
    rcases fragment_needsFix hdisks hcmd with ⟨rfl, hnone, hintended⟩ | ⟨⟨rest, rfl⟩, hneeds⟩
    · exact ⟨fun _ => ⟨hnone, id⟩, fun _ => sound_reboot hintended force timeout⟩
    · exact ⟨fun hsound => absurd hsound (not_sound_stop_semi force timeout _), fun h => absurd hneeds h.1⟩

/-- A definition with one disk. -/
def one_disk_json (size : ℤ) : vms.definition.Json where
  items := ∅
  simple _ := none
  nics := []
  disks := [(AList.singleton "path" (.str "/dev/zvol/rdsk/zones/9b4a2c8e-disk0")).insert "size" (.int size)]

/-- A VM with one disk, of the given sizes in its pending and its active definition. -/
def one_disk (hvm_type : Option Hypervisor) (size size_active : ℤ) : Vm where
  uuid := "9b4a2c8e"
  zpool := "zones"
  hvm_type := hvm_type
  json := one_disk_json size
  json_active := one_disk_json size_active
  zfs_snapshot_quota := "20480M"
  disk := size
  disk_active := size_active
  snapshot_quota_update_pending := false
  snapshot_set := false
  extra_opts := ""
  iso_dir := "/iso"

/-- A VM with one disk, of another model in its pending definition. -/
def new_model : Vm :=
  { one_disk (some .KVM) 10240 10240 with
    json := { one_disk_json 10240 with
      disks := (one_disk_json 10240).disks.map fun disk => Dict.update disk (AList.singleton "model" (.str "virtio")) }
    json_active := { one_disk_json 10240 with
      disks := (one_disk_json 10240).disks.map fun disk => Dict.update disk (AList.singleton "model" (.str "ide")) } }

/-- The disk is updated, and `vmadm update` does it. -/
theorem line_sound_iff_model : ∃ line disk, command new_model .put = .ok line ∧ new_model.update_disks = some [disk] ∧
    disk.lookup "model" = some (.str "virtio") ∧ Sound new_model line := by
  have hline : command new_model .put = .ok (put_cmd new_model) := rfl
  have hdisks : ∃ disk, new_model.update_disks = some [disk] ∧ disk.lookup "model" = some (.str "virtio") ∧
      "size" ∉ disk ∧ "refreservation" ∉ disk := ⟨_, rfl, rfl, by decide, by decide⟩
  obtain ⟨disk, hupdate, hmodel, hsize, hrefr⟩ := hdisks
  refine ⟨_, disk, hline, hupdate, hmodel, (line_sound_iff .put hline).mpr ⟨?_, id⟩⟩
  rintro ⟨disks, hsome, ⟨disk', hmem, hresized⟩ | hrequoted⟩
  · rw [hupdate] at hsome
    obtain rfl := Option.some.inj hsome
    obtain rfl := List.mem_singleton.mp hmem
    exact hresized.elim hsize fun h => hrefr h.1
  · cases hrequoted.1

/-- The disk of a KVM VM grows: the line begins with a separator. -/
theorem not_sound_resized :
    ¬ ∀ vm request line, command vm request = .ok line → Sound vm line := by
  intro hsound
  have hline : command (one_disk (some .KVM) 20480 10240) .put =
      .ok (zfs_set "volsize" "20480M" "zones/9b4a2c8e-disk0" ++ put_cmd (one_disk (some .KVM) 20480 10240)) := rfl
  exact not_sound_semi _ (hsound _ _ _ hline)

end command

end api.vm.update_command

import Esdc.Api.Status.Deploy

open vms.models expiring_store que.lock transition Relation

namespace api.vm.status

variable {H Node Time : Type} {info : VmInfo Node}

/-- The next status of a deployment: to DEPLOYING_START and DEPLOYING_FINISH, or
to DEPLOYING_DUMMY, or at once to a regular status, as the VM's image demands. -/
def VmInfo.forward (info : VmInfo Node) : Status → Status → Bool
  | .CREATING, new =>
    if info.is_deploy_needed then new = .DEPLOYING_START
    else if info.is_blank then new = .DEPLOYING_DUMMY
    else regular new
  | .DEPLOYING_START, new => new = .DEPLOYING_FINISH
  | _, new => regular new

/-- The status has moved on from the first to the second. -/
def VmInfo.reaches (info : VmInfo Node) : Status → Status → Prop :=
  ReflTransGen fun old new => info.forward old new = true

def stage : Status → Bool
  | .DEPLOYING_START | .DEPLOYING_FINISH | .DEPLOYING_DUMMY => true
  | _ => false

theorem stage_or_regular {old new : Status} (hforward : info.forward old new = true) :
    stage new = true ∨ regular new = true := by
  cases old with
  | CREATING =>
    simp only [VmInfo.forward] at hforward
    split_ifs at hforward with hneeded hblank
    · exact .inl (of_decide_eq_true hforward ▸ rfl)
    · exact .inl (of_decide_eq_true hforward ▸ rfl)
    · exact .inr hforward
  | DEPLOYING_START => exact .inl (of_decide_eq_true hforward ▸ rfl)
  | _ => exact .inr hforward

/-- A status that is followed by a regular one is followed by regular ones only. -/
theorem forward_regular {old new other : Status} (hnew : info.forward old new = true)
    (hregular : regular new = true) (hother : info.forward old other = true) :
    regular other = true := by
  cases old with
  | CREATING =>
    simp only [VmInfo.forward] at hnew hother
    split_ifs at hnew hother with hneeded hblank
    · obtain rfl := of_decide_eq_true hnew
      cases hregular
    · obtain rfl := of_decide_eq_true hnew
      cases hregular
    · exact hother
  | DEPLOYING_START =>
    obtain rfl := of_decide_eq_true hnew
    cases hregular
  | _ => exact hother

theorem forward_of_regular {old new : Status} (hregular : regular old = true)
    (hnew : info.forward old new = true) : regular new = true := by
  cases old <;> first | exact hnew | cases hregular

theorem reaches_regular {old new : Status} (hregular : regular old = true)
    (hreaches : info.reaches old new) : regular new = true := by
  induction hreaches with
  | refl => exact hregular
  | tail _ hforward ih => exact forward_of_regular ih hforward

/-- From a status that is followed by a regular one only regular ones are reached. -/
theorem reaches_last {old new last : Status} (hlast : info.forward old last = true)
    (hregular : regular last = true) (hreaches : info.reaches old new) :
    new = old ∨ regular new = true := by
  rcases ReflTransGen.cases_head hreaches with rfl | ⟨next, hnext, hrest⟩
  · exact .inl rfl
  · exact .inr (reaches_regular (forward_regular hlast hregular hnext) hrest)

/-- The stages that `vm_deploy` is started for are never entered again. -/
theorem not_reaches_back {stage_status old : Status}
    (hstage : stage_status = .DEPLOYING_FINISH ∨ stage_status = .DEPLOYING_DUMMY)
    (hforward : info.forward old stage_status = true) : ¬ info.reaches stage_status old := by
  intro hreaches
  have hlast : info.forward stage_status .RUNNING = true := by rcases hstage with rfl | rfl <;> rfl
  rcases reaches_last hlast rfl hreaches with rfl | hregular
  · rcases hstage with rfl | rfl <;> cases hforward
  · have hback := forward_of_regular hregular hforward
    rcases hstage with rfl | rfl <;> cases hback

/-- A write that was chosen for a state that was the status of the VM. -/
structure VmInfo.Chosen (info : VmInfo Node) (state_cache : Status) (write : Write) : Prop where
  forward : info.forward state_cache write.new_status = true
  vm_deploy : write.vm_deploy.isSome = true →
    write.new_status = .DEPLOYING_FINISH ∨ write.new_status = .DEPLOYING_DUMMY

theorem STATUS_DICT_regular (state : NodeState) : regular (Vm.STATUS_DICT state) = true := by
  cases state <;> rfl

/-- The cached states in which a change is found. -/
theorem detect_change_cases (state_cache state : Status) :
    match detect_change state_cache state false with
    | .ignored => True
    | .deploy => state_cache = .CREATING
    | .deploy_finish => state_cache = .DEPLOYING_START
    | .deploy_over => state_cache = .DEPLOYING_FINISH ∨ state_cache = .DEPLOYING_DUMMY
    | .changed => state_cache ∈ Vm.STATUS_KNOWN := by
  cases state_cache <;> cases state <;> simp [detect_change, Vm.STATUS_KNOWN]

theorem forward_known {old new : Status} (hknown : old ∈ Vm.STATUS_KNOWN) :
    info.forward old new = regular new := by
  cases old <;> first | rfl | exact absurd hknown (by decide)

theorem chosen_of_write {state_cache : Status} {state : NodeState} {write : Write}
    (hwrite : info.write (Vm.STATUS_DICT state)
      (detect_change state_cache (Vm.STATUS_DICT state) false) = some write) :
    info.Chosen state_cache write := by
  have hregular := STATUS_DICT_regular state
  have hcases := detect_change_cases state_cache (Vm.STATUS_DICT state)
  cases hchange : detect_change state_cache (Vm.STATUS_DICT state) false with
  | ignored =>
    rw [hchange] at hwrite
    cases hwrite
  | deploy =>
    rw [hchange] at hwrite hcases
    obtain rfl := hcases
    simp only [VmInfo.write] at hwrite
    split_ifs at hwrite with hneeded hblank
    · obtain rfl := Option.some.inj hwrite
      exact ⟨by simp [VmInfo.forward, hneeded], fun hdeploy => by cases hdeploy⟩
    · obtain rfl := Option.some.inj hwrite
      exact ⟨by simp [VmInfo.forward, hneeded, hblank], fun _ => .inr rfl⟩
    · obtain rfl := Option.some.inj hwrite
      exact ⟨by simpa [VmInfo.forward, hneeded, hblank] using hregular, fun hdeploy => by cases hdeploy⟩
  | deploy_finish =>
    rw [hchange] at hwrite hcases
    obtain rfl := hcases
    obtain rfl := Option.some.inj hwrite
    exact ⟨rfl, fun _ => .inl rfl⟩
  | deploy_over =>
    rw [hchange] at hwrite hcases
    obtain rfl := Option.some.inj hwrite
    refine ⟨?_, fun hdeploy => by cases hdeploy⟩
    rcases hcases with rfl | rfl <;> exact hregular
  | changed =>
    rw [hchange] at hwrite hcases
    obtain rfl := Option.some.inj hwrite
    exact ⟨(forward_known hcases).trans hregular, fun hdeploy => by cases hdeploy⟩

end api.vm.status

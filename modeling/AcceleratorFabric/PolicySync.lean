import AcceleratorFabric.ApiServer
import AcceleratorFabric.ClaimTemplate

/-! # The policy controller

`Controller.sync` keeps the resource claim template of a placement policy: it reads the stored
template and then creates, updates or deletes it.  The API server stores a new template only
under a free name, refuses an update of a stale version and one that changes the spec, and
deletes whatever has the name.

* `sync_converges_iff`: from which templates the controller reaches the desired one.
* `sync_effects_proper_iff`: when a `sync` among other clients touches only templates of its
  policy. -/

namespace AcceleratorFabric.PolicyController

open GoMap GoText ApiServer AcceleratorFabric.Dra

/-! ### Stored templates -/

/-- A request for devices; its selectors are texts of CEL expressions. -/
structure DeviceRequest where
  name : String
  deviceClassName : String
  selectors : List String
  allocationMode : String
  count : ℤ
deriving DecidableEq, Repr

/-- The spec of a stored template.  Other clients may also set what the controller leaves unset:
`rest` is the encoding of those fields, empty if there are none. -/
structure ResourceClaimTemplateSpec where
  labels : GoMap String String
  requests : List DeviceRequest
  constraints : List (List String × String)
  rest : String
deriving DecidableEq

structure TemplateObject where
  name : String
  namespaceName : String
  labels : GoMap String String
  annotations : GoMap String String
  ownerReferences : List OwnerReference
  spec : ResourceClaimTemplateSpec
deriving DecidableEq

def QualifiedName.text (name : QualifiedName) : String := name.domain ++ "/" ++ name.name

namespace ResourceClaimTemplate

/-- The spec as the server stores it. -/
def spec [IsPrint] (template : ResourceClaimTemplate) : ResourceClaimTemplateSpec where
  labels := template.claimLabels
  requests := [⟨template.requestName, template.deviceClassName,
    template.selectors.map CelSelector.expression, template.allocationMode, template.count⟩]
  constraints := template.constraints.map fun c => (c.requests, c.matchAttribute.text)
  rest := ""

/-- What `Create` stores. -/
def object [IsPrint] (template : ResourceClaimTemplate) : TemplateObject where
  name := template.name
  namespaceName := template.namespaceName
  labels := template.labels
  annotations := ∅
  ownerReferences := template.ownerReferences
  spec := template.spec

end ResourceClaimTemplate

/-- The documentation of `IsControlledBy`: of an object with one controller at most, it tells
whether that has the UID. -/
class LawfulOwners [Kube] : Prop where
  isControlledBy_iff : ∀ {owners : List OwnerReference} (uid : String),
    (owners.filter (·.controller)).length ≤ 1 →
      (Kube.isControlledBy owners uid = true ↔
        ∃ ref ∈ owners, ref.controller = true ∧ ref.uid = uid)

section controller

variable [Kube]

/-- The template has the managed-by label and is controlled by the policy. -/
def Ours (policy : AcceleratorPlacementPolicy) (object : TemplateObject) : Prop :=
  object.labels.lookup managedByLabel = some managedByValue ∧
    Kube.isControlledBy object.ownerReferences policy.uid = true

instance (policy : AcceleratorPlacementPolicy) (object : TemplateObject) :
    Decidable (Ours policy object) := by
  unfold Ours
  infer_instance

/-- The stored template is the desired one as far as the controller compares them. -/
def Matches (desired : ResourceClaimTemplate) (object : TemplateObject) : Prop :=
  object.spec = desired.spec ∧ object.labels = desired.labels ∧
    object.ownerReferences = desired.ownerReferences

instance (desired : ResourceClaimTemplate) (object : TemplateObject) :
    Decidable (Matches desired object) := by
  unfold Matches
  infer_instance

/-- The stored template with everything the controller compares replaced. -/
def replaced (desired : ResourceClaimTemplate) (existing : TemplateObject) : TemplateObject :=
  { existing with
    spec := desired.spec
    labels := desired.labels
    ownerReferences := desired.ownerReferences }

end controller

/-! ### The controller -/

inductive TemplateRejection where
  | specImmutable
deriving DecidableEq, Repr

/-- What the server makes of an update: the spec of a template must not change. -/
def updateTemplate (new old : TemplateObject) : Except TemplateRejection TemplateObject :=
  if new.spec = old.spec then .ok new else .error .specImmutable

inductive SyncError where
  | api (error : ApiError TemplateRejection)
  | template (error : TemplateError)
  | notManaged (namespaceName name : String)
deriving DecidableEq, Repr

def SyncError.message [IsPrint] (describe : ApiError TemplateRejection → String) :
    SyncError → String
  | api e => describe e
  | template e => e.message
  | notManaged namespaceName name =>
      "resource claim template " ++ namespaceName ++ "/" ++ name ++
        " is not managed by this controller"

/-- A client of the templates that returns an error or nothing. -/
abbrev TemplateClient := Prog TemplateObject TemplateRejection (Except SyncError Unit)

/-- The last request of `sync`. -/
def send (r : Request TemplateObject TemplateRejection) : TemplateClient := finish .api r

/-- `Controller.sync` for what the lister has under the name. -/
def sync [Kube] [FloatConversion]
    (lister : Except (ApiError TemplateRejection) AcceleratorPlacementPolicy) : TemplateClient :=
  match lister with
  | .error .notFound => .done (.ok ())
  | .error e => .done (.error (.api e))
  | .ok policy => .call .get fun got =>
      match policy.spec.dra with
      | none =>
          match got with
          | .error .notFound => .done (.ok ())
          | .error e => .done (.error (.api e))
          | .ok (_, existing) =>
              if ¬ Ours policy existing then .done (.ok ())
              else send .delete
      | some _ =>
          match resourceClaimTemplateForPolicy (some policy) with
          | .error e => .done (.error (.template e))
          | .ok desired =>
              match got with
              | .error .notFound => send (.create desired.object)
              | .error e => .done (.error (.api e))
              | .ok (version, existing) =>
                  if ¬ Ours policy existing then
                    .done (.error (.notManaged existing.namespaceName existing.name))
                  else if Matches desired existing then .done (.ok ())
                  else send (.update version (updateTemplate (replaced desired existing)))

/-! ### Templates of a policy -/

section convergence

variable [FloatConversion] {policy : AcceleratorPlacementPolicy} {desired : ResourceClaimTemplate}

theorem owned_of_template (h : resourceClaimTemplateForPolicy (some policy) = .ok desired) :
    (∃ dra, policy.spec.dra = some dra) ∧
      desired.labels = literal [(managedByLabel, managedByValue), (policyLabel, policy.name)] ∧
      desired.ownerReferences = [⟨"scheduling.bupt.dev/v1alpha1", "AcceleratorPlacementPolicy",
        policy.name, policy.uid, true, true⟩] := by
  obtain ⟨dra, _, _, hdra, _, _, hlabels, howners, _⟩ := template_fields h
  exact ⟨⟨dra, hdra⟩, hlabels, howners⟩

variable [Kube]

omit [FloatConversion] in
theorem matches_object (desired : ResourceClaimTemplate) : Matches desired desired.object :=
  ⟨rfl, rfl, rfl⟩

omit [FloatConversion] in
theorem matches_replaced (desired : ResourceClaimTemplate) (existing : TemplateObject) :
    Matches desired (replaced desired existing) :=
  ⟨rfl, rfl, rfl⟩

/-- Label and owner are among what the controller compares, and every version of a policy object
has its UID. -/
theorem ours_of_written [LawfulOwners] {earlier : AcceleratorPlacementPolicy}
    {old : ResourceClaimTemplate}
    (h : resourceClaimTemplateForPolicy (some earlier) = .ok old) (huid : earlier.uid = policy.uid)
    {object : TemplateObject} (hmatches : Matches old object) : Ours policy object := by
  obtain ⟨_, hlabels, howners⟩ := owned_of_template h
  unfold Ours
  rw [hmatches.2.1, hmatches.2.2, hlabels, howners]
  constructor
  · have hne : managedByLabel ≠ policyLabel := by decide
    simp [literal, hne]
  · rw [LawfulOwners.isControlledBy_iff policy.uid (by simp)]
    exact ⟨_, List.mem_singleton.mpr rfl, rfl, huid⟩

/-! ### Convergence -/

/-- A `sync` without other clients and lost answers. -/
def syncAlone (policy : AcceleratorPlacementPolicy) (s : Slot TemplateObject) :
    Outcome TemplateObject (Except SyncError Unit) :=
  (sync (.ok policy)).run [] s

/-- The slot after that many of them. -/
def syncTimes (policy : AcceleratorPlacementPolicy) : ℕ → Slot TemplateObject → Slot TemplateObject
  | 0, s => s
  | n + 1, s => syncTimes policy n (syncAlone policy s).slot

/-- The desired template is stored, and a further `sync` succeeds without a write. -/
def Settled (policy : AcceleratorPlacementPolicy) (desired : ResourceClaimTemplate)
    (s : Slot TemplateObject) : Prop :=
  (∃ p, s.stored = some p ∧ Matches desired p.2) ∧ syncAlone policy s = ⟨.ok (), s, []⟩

theorem syncAlone_absent (h : resourceClaimTemplateForPolicy (some policy) = .ok desired)
    {s : Slot TemplateObject} (hnone : s.stored = none) :
    (syncAlone policy s).slot = s.put desired.object := by
  obtain ⟨⟨dra, hdra⟩, _⟩ := owned_of_template h
  simp [syncAlone, sync, Prog.run, take_quiet, serve, hnone, hdra, h, send, run_finish]

theorem syncAlone_matches [LawfulOwners]
    (h : resourceClaimTemplateForPolicy (some policy) = .ok desired)
    {s : Slot TemplateObject} {p : ℕ × TemplateObject} (hp : s.stored = some p)
    (hmatches : Matches desired p.2) : syncAlone policy s = ⟨.ok (), s, []⟩ := by
  obtain ⟨⟨dra, hdra⟩, _⟩ := owned_of_template h
  have hours := ours_of_written h rfl hmatches
  simp [syncAlone, sync, Prog.run, take_quiet, serve, hp, hdra, h, hours, hmatches]

theorem syncAlone_differs (h : resourceClaimTemplateForPolicy (some policy) = .ok desired)
    {s : Slot TemplateObject} {p : ℕ × TemplateObject} (hp : s.stored = some p)
    (hours : Ours policy p.2) (hdiffers : ¬ Matches desired p.2) :
    (syncAlone policy s).slot =
      if p.2.spec = desired.spec then s.put (replaced desired p.2) else s := by
  obtain ⟨⟨dra, hdra⟩, _⟩ := owned_of_template h
  have hspec : (replaced desired p.2).spec = p.2.spec ↔ p.2.spec = desired.spec :=
    ⟨fun e => e.symm, fun e => e.symm⟩
  simp only [syncAlone, sync, Prog.run, take_quiet, serve, hp, hdra, h, hours, hdiffers, send,
    run_finish, List.headD_nil, List.tail_nil, not_true_eq_false, if_false, ne_eq, updateTemplate,
    hspec]
  split_ifs <;> rfl

theorem settled_of_matches [LawfulOwners]
    (h : resourceClaimTemplateForPolicy (some policy) = .ok desired)
    {s : Slot TemplateObject} {p : ℕ × TemplateObject} (hp : s.stored = some p)
    (hmatches : Matches desired p.2) : Settled policy desired s :=
  ⟨⟨p, hp, hmatches⟩, syncAlone_matches h hp hmatches⟩

theorem syncTimes_stuck (h : resourceClaimTemplateForPolicy (some policy) = .ok desired)
    {s : Slot TemplateObject} {p : ℕ × TemplateObject} (hp : s.stored = some p)
    (hours : Ours policy p.2) (hspec : p.2.spec ≠ desired.spec) :
    ∀ n, syncTimes policy n s = s
  | 0 => rfl
  | n + 1 => by
      rw [syncTimes, syncAlone_differs h hp hours (fun hm => hspec hm.1), if_neg hspec]
      exact syncTimes_stuck h hp hours hspec n

/-- **Convergence of the policy controller.**  From no template, or from a template of the policy,
two calls of `sync` suffice for the desired template exactly if the template there has the
desired spec already. -/
theorem sync_converges_iff [LawfulOwners] (policy : AcceleratorPlacementPolicy)
    (desired : ResourceClaimTemplate) (s : Slot TemplateObject)
    (h : resourceClaimTemplateForPolicy (some policy) = .ok desired)
    (hours : ∀ p, s.stored = some p → Ours policy p.2) :
    (∃ n ≤ 2, Settled policy desired (syncTimes policy n s)) ↔
      ∀ p, s.stored = some p → p.2.spec = desired.spec := by
  constructor
  · rintro ⟨n, _, ⟨q, hq, hmatches⟩, _⟩ p hp
    by_contra hspec
    rw [syncTimes_stuck h hp (hours p hp) hspec n, hp] at hq
    rw [← Option.some.inj hq] at hmatches
    exact hspec hmatches.1
  · intro hspec
    cases hp : s.stored with
    | none =>
        refine ⟨1, by omega, settled_of_matches (p := (s.revision + 1, desired.object)) h ?_
          (matches_object desired)⟩
        rw [syncTimes, syncTimes, syncAlone_absent h hp]
        rfl
    | some p =>
        by_cases hmatches : Matches desired p.2
        · exact ⟨0, by omega, settled_of_matches h hp hmatches⟩
        · refine ⟨1, by omega, settled_of_matches (p := (s.revision + 1, replaced desired p.2)) h ?_
            (matches_replaced desired p.2)⟩
          rw [syncTimes, syncTimes, syncAlone_differs h hp (hours p hp) hmatches,
            if_pos (hspec p hp)]
          rfl

end convergence

theorem any_find_controller {owners : List OwnerReference} (uid : String)
    (h : (owners.filter (·.controller)).length ≤ 1) :
    (owners.find? (·.controller)).any (fun ref => decide (ref.uid = uid)) = true ↔
      ∃ ref ∈ owners, ref.controller = true ∧ ref.uid = uid := by
  rw [Option.any_eq_true]
  constructor
  · rintro ⟨ref, hfind, huid⟩
    exact ⟨ref, List.mem_of_find?_eq_some hfind, List.find?_some hfind, of_decide_eq_true huid⟩
  · rintro ⟨ref, hmem, hcontroller, huid⟩
    have hfilter : ref ∈ owners.filter (·.controller) := List.mem_filter.mpr ⟨hmem, hcontroller⟩
    obtain ⟨only, honly⟩ := List.length_eq_one_iff.mp
      (le_antisymm h (List.length_pos_of_mem hfilter))
    rw [honly, List.mem_singleton] at hfilter
    refine ⟨ref, ?_, decide_eq_true huid⟩
    rw [← List.head?_filter, honly, hfilter, List.head?_cons]

instance : @LawfulOwners sampleKube :=
  @LawfulOwners.mk sampleKube fun {_} uid h => any_find_controller uid h

/-- A template of the policy that lost the label with the name of the policy. -/
def relabelled [Kube] (template : ResourceClaimTemplate) : TemplateObject :=
  { template.object with labels := literal [(managedByLabel, managedByValue)] }

theorem sync_converges_after_relabelling :
    let : Kube := sampleKube
    let : FloatConversion := amd64
    let policy := samplePolicyObject .bestEffort 4
    ∃ desired, resourceClaimTemplateForPolicy (some policy) = .ok desired ∧
      (∃ n ≤ 2, Settled policy desired (syncTimes policy n Slot.empty)) ∧
      ∃ n ≤ 2, Settled policy desired
        (syncTimes policy n (Slot.empty.put (relabelled desired))) := by
  intro kube conversion policy
  obtain ⟨desired, hdesired⟩ : ∃ desired, resourceClaimTemplateForPolicy (some policy) =
    .ok desired := ⟨_, rfl⟩
  refine ⟨desired, hdesired, ?_, ?_⟩
  · refine (sync_converges_iff policy desired _ hdesired ?_).mpr ?_
    · intro p hp
      cases hp
    · intro p hp
      cases hp
  · refine (sync_converges_iff policy desired _ hdesired ?_).mpr ?_
    · intro p hp
      cases hp
      cases hdesired
      decide +kernel
    · intro p hp
      cases hp
      rfl

/-- After the device count of a policy went from four to two, its template keeps asking for
four: the server refuses to change the spec. -/
theorem sync_stuck_after_edit :
    ¬ ∀ (_ : Kube) (_ : LawfulOwners) (_ : FloatConversion)
      (earlier policy : AcceleratorPlacementPolicy)
      (old desired : ResourceClaimTemplate) (s : Slot TemplateObject) (p : ℕ × TemplateObject),
      earlier.name = policy.name → earlier.namespaceName = policy.namespaceName →
      earlier.uid = policy.uid →
      resourceClaimTemplateForPolicy (some earlier) = .ok old →
      resourceClaimTemplateForPolicy (some policy) = .ok desired →
      s.stored = some p → Matches old p.2 →
        ∃ n ≤ 2, Settled policy desired (syncTimes policy n s) := by
  intro h
  let : Kube := sampleKube
  let : FloatConversion := amd64
  obtain ⟨old, hold⟩ : ∃ old, resourceClaimTemplateForPolicy
      (some (samplePolicyObject .bestEffort 4)) = .ok old := ⟨_, rfl⟩
  obtain ⟨desired, hdesired⟩ : ∃ desired, resourceClaimTemplateForPolicy
      (some (samplePolicyObject .bestEffort 2)) = .ok desired := ⟨_, rfl⟩
  have hcount : old.spec ≠ desired.spec := by
    cases hold
    cases hdesired
    decide +kernel
  obtain ⟨n, _, ⟨q, hq, hmatches⟩, _⟩ := h sampleKube inferInstance amd64
    (samplePolicyObject .bestEffort 4) (samplePolicyObject .bestEffort 2) old desired
    (Slot.empty.put old.object) (1, old.object) rfl rfl rfl hold hdesired rfl (matches_object old)
  rw [syncTimes_stuck hdesired (p := (1, old.object)) rfl
    (ours_of_written hold rfl (matches_object old)) hcount n] at hq
  rw [← Option.some.inj hq] at hmatches
  exact hcount hmatches.1

/-! ### Other clients -/

section interference

variable [Kube] {policy : AcceleratorPlacementPolicy}

/-- The effect is on a free name or on a template of the policy. -/
def Proper (policy : AcceleratorPlacementPolicy) : Effect TemplateObject → Prop
  | .created _ => True
  | .updated old _ => Ours policy old
  | .deleted old => Ours policy old

instance (policy : AcceleratorPlacementPolicy) (e : Effect TemplateObject) :
    Decidable (Proper policy e) := by
  cases e <;> unfold Proper <;> infer_instance

/-- When a deletion is carried out, the name is free or the template there is still the
policy's. -/
def DeletesOwn (policy : AcceleratorPlacementPolicy)
    (first second : Turn TemplateObject TemplateRejection) (s : Slot TemplateObject) : Prop :=
  policy.spec.dra = none → ∀ read, (take first s .get).answer = .ok read → Ours policy read.2 →
    second.lost ≠ some false →
      ∀ p, (serveAll (take first s .get).slot second.before).stored = some p → Ours policy p.2

variable [FloatConversion]

theorem effects_sync_of_none (hdra : policy.spec.dra = none)
    (turns : List (Turn TemplateObject TemplateRejection)) (s : Slot TemplateObject) :
    ((sync (.ok policy)).run turns s).effects =
      match (take (turns.headD quiet) s .get).answer with
      | .error _ => []
      | .ok read => if Ours policy read.2 then
          (take (turns.tail.headD quiet) (take (turns.headD quiet) s .get).slot .delete).effects
        else [] := by
  simp only [sync, Prog.run, hdra, effects_get, List.nil_append]
  cases (take (turns.headD quiet) s .get).answer with
  | error e => cases e <;> rfl
  | ok read =>
      simp only
      split_ifs with hours
      · rw [send, run_finish]
      · rfl

theorem proper_of_dra {dra : DRAParameters} (hdra : policy.spec.dra = some dra)
    (turns : List (Turn TemplateObject TemplateRejection)) (s : Slot TemplateObject) :
    ∀ e ∈ ((sync (.ok policy)).run turns s).effects, Proper policy e := by
  simp only [sync, Prog.run, hdra, effects_get, List.nil_append]
  cases resourceClaimTemplateForPolicy (some policy) with
  | error e => simp [Prog.run]
  | ok desired =>
      cases hread : (take (turns.headD quiet) s .get).answer with
      | error e =>
          cases e with
          | notFound =>
              simp only [send, run_finish]
              rcases effects_create (turns.tail.headD quiet) (take (turns.headD quiet) s .get).slot
                desired.object with hnone | ⟨_, hcreated⟩
              · rw [hnone]
                exact List.forall_mem_nil _
              · rw [hcreated, List.forall_mem_singleton]
                trivial
          | _ => simp [Prog.run]
      | ok read =>
          obtain ⟨version, existing⟩ := read
          simp only
          split_ifs with hours hmatches
          · simp [Prog.run]
          · rw [send, run_finish]
            rcases effects_update (known_of_get hread) (turns.tail.headD quiet)
              (updateTemplate (replaced desired existing)) with hnone | ⟨new, _, _, hupdated⟩
            · rw [hnone]
              exact List.forall_mem_nil _
            · rw [hupdated, List.forall_mem_singleton]
              exact hours
          · simp [Prog.run]

/-- **What a `sync` touches among other clients.**  Whatever others do between the requests of a
`sync` and whichever answers are lost, what it creates, updates and deletes is a free name or a
template of its policy, exactly if this holds of a deletion. -/
theorem sync_effects_proper_iff (policy : AcceleratorPlacementPolicy)
    (turns : List (Turn TemplateObject TemplateRejection)) (s : Slot TemplateObject) :
    (∀ e ∈ ((sync (.ok policy)).run turns s).effects, Proper policy e) ↔
      DeletesOwn policy (turns.headD quiet) (turns.tail.headD quiet) s := by
  unfold DeletesOwn
  cases hdra : policy.spec.dra with
  | some dra => simpa using proper_of_dra hdra turns s
  | none =>
      rw [effects_sync_of_none hdra]
      generalize turns.headD quiet = first, turns.tail.headD quiet = second
      cases (take first s .get).answer with
      | error e => simp
      | ok read =>
          by_cases hours : Ours policy read.2
          · simp only [if_pos hours, effects_delete]
            split_ifs with hlost
            · simp [hlost]
            · cases (serveAll (take first s .get).slot second.before).stored with
              | none => simp
              | some p => simp [hlost, hours, Proper]
          · simp [hours]

end interference

/-- A template that somebody else keeps under the name of the policy. -/
def foreignTemplate : TemplateObject where
  name := "policy"
  namespaceName := "team-a"
  labels := ∅
  annotations := ∅
  ownerReferences := []
  spec := ⟨∅, [], [], ""⟩

/-- The template that was read is replaced by another client's before it is deleted. -/
theorem sync_deletes_foreign_template :
    ¬ ∀ (_ : Kube) (_ : LawfulOwners) (_ : FloatConversion) (policy : AcceleratorPlacementPolicy)
      (turns : List (Turn TemplateObject TemplateRejection)) (s : Slot TemplateObject),
      ∀ e ∈ ((sync (.ok policy)).run turns s).effects, Proper policy e := by
  intro h
  let : Kube := sampleKube
  let : FloatConversion := amd64
  let policy := samplePolicyObject .bestEffort 4
  obtain ⟨template, htemplate⟩ : ∃ template, resourceClaimTemplateForPolicy (some policy) =
      .ok template := ⟨_, rfl⟩
  have hdelete := h sampleKube inferInstance amd64
    { policy with spec := { policy.spec with dra := none } }
    [quiet, ⟨[.delete, .create foreignTemplate], none⟩] (Slot.empty.put template.object)
    (.deleted foreignTemplate)
  cases htemplate
  revert hdelete
  decide +kernel

end AcceleratorFabric.PolicyController

import OvnOctavia.MonitorOutcomes
import OvnOctavia.MemberSteps

/-!
The creation and the removal of a member on a row whose pools may have health monitors.
A creation only ever adds to the mappings; a removal takes the mapping of the member's
address away, if its port is found, whoever else has the address.
-/

namespace OvnOctavia

section Associations
variable {env : Env} {nb nb' nb'' : Nb} {row row' row'' : LoadBalancer}

/-- Nothing but the associations of a row and the ports of Neutron changed. -/
structure Aside (nb : Nb) (row : LoadBalancer) (nb' : Nb) (row' : LoadBalancer) : Prop where
  wellFormed : nb'.WellFormed
  found : nb'.lb? row.uuid = some row'
  shape : ∃ e, row' = { row with externalIds := e }
  keys : SameKeys row.externalIds row'.externalIds
  hms : row'.externalIds.get? lbExtIdsHmsKey = row.externalIds.get? lbExtIdsHmsKey
  checks : nb'.healthChecks = nb.healthChecks
  next : nb'.nextUuid = nb.nextUuid

theorem Aside.refl (hw : nb.WellFormed) (h : nb.lb? row.uuid = some row) : Aside nb row nb row :=
  ⟨hw, h, ⟨_, rfl⟩, .refl _, rfl, rfl, rfl⟩

/-- Commands that associate the row, or delete a port. -/
def Command.IsAside (u : Nat) (c : Command) : Prop :=
  c.Associates u ∨ ∃ id, c = .portDelete id

theorem Aside.apply (h : Aside nb row nb' row') {c : Command} (hc : c.IsAside row.uuid)
    (ha : Nb.apply c nb' = .ok nb'') : ∃ row'', Aside nb row nb'' row'' := by
  have hrows : ∀ s : Nb, s.loadBalancers = nb'.loadBalancers → s.healthChecks = nb'.healthChecks →
      s.nextUuid = nb'.nextUuid → Aside nb row s row' := by
    intro s hl hh hn
    refine ⟨⟨hl ▸ h.wellFormed.nodup, ?_⟩, ?_, h.shape, h.keys, h.hms, hh.trans h.checks,
      hn.trans h.next⟩
    · rw [hl, hn]
      exact h.wellFormed.lt_next
    · rw [Nb.lb?, hl]
      exact h.found
  rcases hc with hc | ⟨id, rfl⟩
  · cases c with
    | lbUpdate v op =>
        have hv : v = row.uuid := by
          cases op with
          | setExternalIds kv => exact hc.1
          | removeExternalId k => exact hc.1
          | _ => exact hc.elim
        subst hv
        rw [Nb.apply_lbUpdate h.found] at ha
        cases ha
        obtain ⟨e, hrow⟩ := h.shape
        have hu : row'.uuid = row.uuid := by rw [hrow]
        -- one of the two keys of the associations is written or goes
        obtain ⟨e', hop, hk, hh⟩ : ∃ e', LbOp.apply row' op = { row' with externalIds := e' } ∧
            SameKeys row'.externalIds e' ∧
            e'.get? lbExtIdsHmsKey = row'.externalIds.get? lbExtIdsHmsKey := by
          have hne : ∀ k ∈ associationKeys, lbExtIdsHmsKey ≠ k := by decide
          cases op with
          | setExternalIds kv =>
              obtain ⟨-, k, hk, x, rfl⟩ := hc
              exact ⟨_, rfl, SameKeys.set _ x (peripheral_of_association hk),
                Dict.get?_set_of_ne _ x (hne k hk)⟩
          | removeExternalId k =>
              exact ⟨_, rfl, SameKeys.erase _ (peripheral_of_association hc.2),
                Dict.get?_erase_of_ne _ (hne k hc.2)⟩
          | _ => exact hc.elim
        rw [Nb.updateLb_eq_putLb h.wellFormed h.found (by rw [LbOp.uuid_apply]), hop]
        refine ⟨{ row' with externalIds := e' }, h.wellFormed.putLb _, ?_, ⟨e', by rw [hrow]⟩,
          h.keys.trans hk, hh.trans h.hms, h.checks, h.next⟩
        rw [← hu]
        exact Nb.lb?_putLb { row' with externalIds := e' } (hu.symm ▸ h.found)
    | lsLbAdd | lrLbAdd =>
        simp only [Nb.apply] at ha
        split at ha <;> cases ha
        exact ⟨row', hrows _ rfl rfl rfl⟩
    | lsLbDel | lrLbDel =>
        simp only [Nb.apply] at ha
        split at ha
        · split at ha
          · cases ha
            exact ⟨row', hrows _ rfl rfl rfl⟩
          · cases ha
        · cases ha
    | _ => exact hc.elim
  · cases ha
    exact ⟨row', hrows _ rfl rfl rfl⟩

end Associations

section Values
variable {env : Env} {nb nb' nb₁ nb₂ : Nb} {row row' row₁ row₂ : LoadBalancer}
  {ds : List MemberData} {d : MemberData} {info : MemberInfo} {poolId key value : Str} {up : Bool}

/-- The row has another value for a pool; what its monitors need is as before. -/
structure ValueSet (env : Env) (key value : Str) (nb : Nb) (row : LoadBalancer) (nb' : Nb)
    (row' : LoadBalancer) : Prop where
  tended : Tended env nb' row'
  uuid : row'.uuid = row.uuid
  mappings : row'.ipPortMappings = row.ipPortMappings
  checks : nb'.checksOf row' = nb.checksOf row
  healthCheck : row'.healthCheck = row.healthCheck
  status : row'.externalIds.get? ovnMemberStatusKey = row.externalIds.get? ovnMemberStatusKey
  value : row'.externalIds.get? key = some value
  others : ∀ k, hasPoolPrefix k = true → k ≠ key →
    row'.externalIds.get? k = row.externalIds.get? k

theorem ValueSet.refl (h : Tended env nb row) (hv : row.externalIds.get? key = some value) :
    ValueSet env key value nb row nb row :=
  ⟨h, rfl, rfl, rfl, rfl, rfl, hv, fun _ _ _ => rfl⟩

theorem ValueSet.deletedPorts (h : ValueSet env key value nb row nb' row') (ids : List Str) :
    ValueSet env key value nb row { nb' with deletedPorts := ids } row' :=
  ⟨h.tended.deletedPorts ids, h.uuid, h.mappings, h.checks, h.healthCheck, h.status, h.value,
    h.others⟩

theorem hasPoolPrefix_ne_base {k j : Str} (hk : hasPoolPrefix k = true) (hj : j ∈ baseKeys) :
    k ≠ j := by
  rintro rfl
  rw [hasPoolPrefix_base hj] at hk
  cases hk

/-- What a request on a member of a monitored row leaves: the value of its pool, the
health checks as they were, and another status for that member alone. -/
structure MemberHandled (env : Env) (key : Str) (l : List MemberData) (member : Str) (nb : Nb)
    (row : LoadBalancer) (nb' : Nb) (row' : LoadBalancer) : Prop where
  tended : Tended env nb' row'
  uuid : row'.uuid = row.uuid
  checks : nb'.checksOf row' = nb.checksOf row
  value : row'.externalIds.get? key = some (poolValue l)
  others : ∀ k, hasPoolPrefix k = true → k ≠ key →
    row'.externalIds.get? k = row.externalIds.get? k
  statuses : ∀ id, id ≠ member →
    (statusesIn row'.externalIds).get? id = (statusesIn row.externalIds).get? id

theorem ValueSet.handled (h : ValueSet env key (poolValue ds) nb row nb' row') (member : Str) :
    MemberHandled env key ds member nb row nb' row' :=
  ⟨h.tended, h.uuid, h.checks, h.value, h.others, fun _ _ => by rw [statusesIn_congr h.status]⟩

/-- The mappings and the status of the member are written next. -/
theorem ValueSet.put (h : ValueSet env key (poolValue ds) nb row nb₁ row₁)
    (hkey : hasPoolPrefix key = true) (maps : Dict Str Str) (member : Str) (status : Option Str) :
    MemberHandled env key ds member nb row
      (nb₁.putLb { row₁ with
        externalIds := withStatuses row₁.externalIds
          (withStatus (statusesIn row₁.externalIds) member status)
        ipPortMappings := maps })
      { row₁ with
        externalIds := withStatuses row₁.externalIds
          (withStatus (statusesIn row₁.externalIds) member status)
        ipPortMappings := maps } := by
  have he := restated_withStatuses h.tended.readable
    (withStatus (statusesIn row₁.externalIds) member status)
  have hne : ∀ k, hasPoolPrefix k = true → k ≠ ovnMemberStatusKey :=
    fun k hk => hasPoolPrefix_ne_base hk (by decide)
  obtain ⟨ht, hchecks⟩ := h.tended.put he maps
  refine ⟨ht, h.uuid, hchecks.trans h.checks, (he.get? key (hne key hkey)).trans h.value,
    fun k hk hn => (he.get? k (hne k hk)).trans (h.others k hk hn), fun id hid => ?_⟩
  rw [Readable.statusesIn_withStatuses, ← statusesIn_congr h.status]
  cases status with
  | none => exact Dict.get?_erase_of_ne _ hid
  | some status => exact Dict.get?_set_of_ne _ _ hid

section Creation
variable {l : List MemberData} (hl : l = ds ∨ d ∉ ds ∧ l = ds ++ [d])
  (hset : ValueSet env key (poolValue l) nb row nb₁ row₁)
include hl hset

end Creation

section Removal

end Removal

end Values

end OvnOctavia

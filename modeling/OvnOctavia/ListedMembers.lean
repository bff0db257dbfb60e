import OvnOctavia.NamedPools

/-!
The members that the pools of a row list, against the members that were created: each is
listed once, in the pool it was created in. No status is kept for an id not yet in use.
-/

namespace OvnOctavia

section Members
variable {env : Env} {h : History} {nb : Nb} {r : Request} {row row' : LoadBalancer}
  {e e' : Dict Str Str}

/-- The members listed were created, each in the pool that lists it, once; statuses are of
ids in use. -/
structure Listed (env : Env) (h : History) (e : Dict Str Str) : Prop where
  statuses : ∀ m ∈ (statusesIn e).keys, m ∈ h.taken
  made : ∀ x up ds, IsUuid x → e.get? (getPoolKey x up) = some (poolValue ds) →
    (∀ d ∈ ds, d.WellFormed env) → ds.Nodup ∧ ∀ d ∈ ds, h.Made x d

namespace Listed

theorem of_base (hk : ∀ k ∈ e.keys, k ∈ baseKeys) (hst : ovnMemberStatusKey ∉ e.keys) :
    Listed env h e where
  statuses := by
    rw [statusesIn, loadMemberStatuses, (Dict.get?_eq_none_iff _ _).mpr hst]
    exact List.forall_mem_nil _
  made := fun x up _ _ hg _ => absurd (hk _ (mem_keys_of_get? hg)) (poolKey_notMem_base x up)

theorem of_pools (hl : Listed env h e) (hst : statusesIn e' = statusesIn e)
    (hp : ∀ x up v, IsUuid x → e'.get? (getPoolKey x up) = some v →
      v = [] ∨ ∃ up', e.get? (getPoolKey x up') = some v) : Listed env h e' where
  statuses := hst ▸ hl.statuses
  made := by
    intro x up ds hx hg hds
    rcases hp x up _ hx hg with hnil | ⟨up', hg'⟩
    · rw [poolValue_eq_nil_iff] at hnil
      rw [hnil]
      exact ⟨List.nodup_nil, nofun⟩
    · exact hl.made x up' ds hx hg' hds

theorem of_sameKeys (hl : Listed env h e) (hs : SameKeys e e') : Listed env h e' :=
  hl.of_pools (Readable.statusesIn_of_sameKeys hs) fun x up _ _ hg =>
    .inr ⟨up, samePools_of_sameKeys hs x up ▸ hg⟩

theorem next (hl : Listed env h e) (r : Request) : Listed env (h.next r) e where
  statuses := fun m hm => Kept.taken_next h r (hl.statuses m hm)
  made := by
    intro x up ds hx hg hds
    obtain ⟨hn, hm⟩ := hl.made x up ds hx hg hds
    exact ⟨hn, fun d hd => (hm d hd).next r⟩

theorem withStatuses (hl : Listed env h e) {d : Dict Str Str} (hd : ∀ m ∈ d.keys, m ∈ h.taken) :
    Listed env h (withStatuses e d) where
  statuses := by
    rw [Readable.statusesIn_withStatuses]
    exact hd
  made := by
    intro x up ds hx hg hds
    rw [samePools_withStatuses] at hg
    exact hl.made x up ds hx hg hds

theorem set_pool (hl : Listed env h e) {id : Str} {up : Bool} {ds : List MemberData}
    (hid : IsUuid id) (hds : ∀ d ∈ ds, d.WellFormed env) (hn : ds.Nodup)
    (hm : ∀ d ∈ ds, h.Made id d) : Listed env h (e.set (getPoolKey id up) (poolValue ds)) where
  statuses := by
    rw [statusesIn_congr (Readable.sameBase_set (poolKey_notMem_base id up) _).status]
    exact hl.statuses
  made := by
    intro x b ds' hx hg hds'
    rw [Dict.get?_set] at hg
    split at hg
    · next he =>
        obtain ⟨rfl, rfl⟩ := getPoolKey_inj hx hid he
        rw [← poolValue_inj hds hds' (Option.some.inj hg)]
        exact ⟨hn, hm⟩
    · exact hl.made x b ds' hx hg hds'

end Listed

theorem Source.listed (hl : ∀ row ∈ nb.lbsNamed h.lbId, Listed env h row.externalIds)
    (hs : Source env nb h r row) : Listed env h row.externalIds := by
  cases hs with
  | present hold hs => exact (hl _ hold).of_sameKeys hs.externalIds
  | provided hfirst hup hvip he hv hc hs =>
      refine Listed.of_sameKeys (.of_base (fun k hk => ?_) ?_) hs.externalIds
      · rw [he] at hk
        exact Table.addVipKeys_base _ (Table.baseExternalIds_base _ _ _) k hk
      · rw [he, ← Dict.get?_eq_none_iff]
        exact get?_addVipKeys_status

theorem keys_withStatus {statuses : Dict Str Str} {m : Str} {id : Str} {status : Option Str}
    (hm : m ∈ (withStatus statuses id status).keys) :
    m ∈ statuses.keys ∨ m = id ∧ status.isSome := by
  cases status with
  | none => exact .inl ((Dict.mem_keys_erase _ _ _).mp hm).1
  | some s => exact ((Dict.mem_keys_set _ _ _ _).mp hm).symm.imp_right fun he => ⟨he, rfl⟩

theorem Effect.listed (hk : Kept env h nb) (hd : h.MembersDistinct) (hr : IsLbRequest env h r)
    (ho : h.IsOrderly r) (hread : Readable env row.externalIds)
    (hl : Listed env h row.externalIds) (he : Effect env nb r row row') :
    Listed env (h.next r) row'.externalIds := by
  have hnext := hl.next r
  cases he with
  | spared h hs => exact hnext.of_sameKeys hs.externalIds
  | @listenerCreated info up vips _ _ hup hf hs =>
      refine Listed.of_sameKeys (hnext.of_pools ?_ fun x b v _ hg => .inr ⟨b, ?_⟩) hs.externalIds
      · exact statusesIn_congr (Readable.sameBase_set (listenerKey_notMem_base _ _) _).status
      · rw [samePools_set_listener] at hg
        exact hg
  | listenerDeleted hf hs =>
      refine Listed.of_sameKeys (hnext.of_pools ?_ fun x b v _ hg => .inr ⟨b, ?_⟩) hs.externalIds
      · exact statusesIn_congr (Readable.sameBase_erase (listenerKey_notMem_base _ _)).status
      · rw [samePools_erase_listener] at hg
        exact hg
  | @listenerUpdated info key value vips _ _ hkey hv hf hs =>
      obtain ⟨up, rfl, -⟩ := Table.presentListenerKey_eq hkey
      refine Listed.of_sameKeys (hnext.of_pools ?_ fun x b v _ hg => .inr ⟨b, ?_⟩) hs.externalIds
      · exact statusesIn_congr (status_updatedListenerKeys hv)
      · rw [samePools_updatedListenerKeys rfl] at hg
        exact hg
  | @poolCreated info up _ _ hup hs =>
      refine Listed.of_sameKeys (hnext.of_pools ?_ fun x b v _ hg => ?_) hs.externalIds
      · refine statusesIn_congr ?_
        have hset := (Readable.sameBase_set (e := row.externalIds)
          (poolKey_notMem_base info.id up) []).status
        rcases poolCreateExternalIds_cases info up row.externalIds with he | ⟨l, v, -, -, -, he⟩
        · rw [he, hset]
        · rw [he, (Readable.sameBase_set (listenerKey_notMem_base l true) _).status, hset]
      · rw [get?_poolCreateExternalIds, Dict.get?_set] at hg
        split at hg
        · exact .inl (Option.some.inj hg).symm
        · exact .inr ⟨b, hg⟩
  | @poolDeleted info vips _ _ hf hs =>
      have hid := hk.isUuid_of_pool hr.2
      refine Listed.of_sameKeys (hnext.of_pools ?_ fun x b v hx hg => .inr ⟨b, ?_⟩) hs.externalIds
      · refine statusesIn_congr ?_
        have hbase : Readable.SameBase row.externalIds (poolDeletedKeys info.id row.externalIds) :=
          (detach_induction hread (P := Readable.SameBase row.externalIds)
            (Readable.sameBase_erase (poolKey_notMem_base _ _)) fun acc x up n t hacc hx _ _ =>
              hacc.trans (Readable.sameBase_set (listenerKey_notMem_base x up) _)).trans
            (Readable.sameBase_erase (poolKey_notMem_base _ _))
        exact hbase.status
      · rw [get?_poolDeletedKeys hread hid hx] at hg
        split at hg
        · cases hg
        · exact hg
  | @poolUpdated info up vips _ _ hup hf hs =>
      refine Listed.of_sameKeys (hnext.of_pools ?_ fun x b v hx hg => .inr ?_) hs.externalIds
      · exact statusesIn_congr (get?_movedPoolKeys_of_ne
          (Readable.withStatuses_ne (poolKey_notMem_base _ _)).symm
          (Readable.withStatuses_ne (poolKey_notMem_base _ _)).symm _)
      · cases hfrom : row.externalIds.get? (getPoolKey info.id (!up)) with
        | none =>
            rw [movedPoolKeys_of_none hfrom] at hg
            exact ⟨b, hg⟩
        | some w =>
            rw [movedPoolKeys_of_some hfrom, Dict.get?_set] at hg
            split at hg
            · next he =>
                obtain ⟨rfl, -⟩ := getPoolKey_inj hx hr.2 he
                cases hg
                exact ⟨_, hfrom⟩
            · rw [Dict.get?_erase] at hg
              split at hg
              · cases hg
              · exact ⟨b, hg⟩
  | @memberCreated info poolId value b _ row₁ row₂ _ hp hv hadd hs hst =>
      obtain ⟨poolId', p, d, hp', hpool, hdesc, hwf, -⟩ := hr
      cases hp'.symm.trans hp
      have hid := hk.isUuid_of_pool hpool
      have hmade : (h.next (.memberCreate info)).Made poolId d := by
        obtain ⟨hdid, hip, hport, hsubnet⟩ := hdesc
        refine ⟨_, List.mem_append_right _ (List.mem_singleton_self _), hdid, ?_⟩
        simp only [hp, hip, hport, hsubnet, Option.getD_some, and_self]
      have hadded : Listed env (h.next (.memberCreate info)) row₁.externalIds := by
        rcases hadd with ⟨text, -, -, rfl⟩ | ⟨text, vips, hi, hm, -, rfl⟩
        · exact hnext
        · cases hdesc.text.symm.trans hi
          obtain ⟨ds, rfl, hds⟩ := hread.pool poolId b value hid hv
          obtain ⟨hn, hall⟩ := hnext.made poolId b ds hid hv hds
          have hnew : d ∉ ds := by
            rw [poolItems_poolValue hds] at hm
            exact fun hmem => hm (List.mem_map_of_mem hmem)
          rw [poolValue_append hds]
          refine hnext.set_pool hid (fun a ha => ?_) ?_ fun a ha => ?_
          · rcases List.mem_append.mp ha with ha | ha
            · exact hds a ha
            · exact (List.mem_singleton.mp ha).symm ▸ hwf
          · rw [List.nodup_append]
            refine ⟨hn, List.nodup_singleton d, fun a ha c hc hac => hnew ?_⟩
            rw [← List.mem_singleton.mp hc, ← hac]
            exact ha
          · rcases List.mem_append.mp ha with ha | ha
            · exact hall a ha
            · exact (List.mem_singleton.mp ha).symm ▸ hmade
      have hadded₂ := hadded.of_sameKeys hs.externalIds
      rcases hst with ⟨rfl, -⟩ | ⟨up, status, -, -, rfl⟩
      · exact hadded₂
      · refine hadded₂.withStatuses fun m hm => ?_
        rcases keys_withStatus hm with hm | ⟨rfl, -⟩
        · exact hadded₂.statuses m hm
        · exact List.mem_cons_self ..
  | @memberDeleted info poolId value b _ row₁ row₂ _ hp hv hrem hs hst =>
      obtain ⟨poolId', p, d, hp', hpool, hdesc, hwf⟩ := hr
      cases hp'.symm.trans hp
      have hid := hk.isUuid_of_pool hpool
      have hremoved : Listed env (h.next (.memberDelete info)) row₁.externalIds := by
        rcases hrem with ⟨rfl, -⟩ | ⟨text, row₀, vips, hi, hm, hc, -, rfl⟩
        · exact hnext
        · cases hdesc.text.symm.trans hi
          obtain ⟨ds, rfl, hds⟩ := hread.pool poolId b value hid hv
          obtain ⟨hn, hall⟩ := hnext.made poolId b ds hid hv hds
          rw [poolValue_erase hds hwf ((mem_splitOn_poolValue hds hwf).mp hm)]
          exact (hnext.of_sameKeys hc.externalIds).set_pool hid
            (fun a ha => hds a (List.mem_of_mem_erase ha)) (hn.erase d)
            fun a ha => hall a (List.mem_of_mem_erase ha)
      have hremoved₂ := hremoved.of_sameKeys hs.externalIds
      rw [hst]
      refine hremoved₂.withStatuses fun m hm => ?_
      rcases keys_withStatus hm with hm | ⟨-, hm⟩
      · exact hremoved₂.statuses m hm
      · cases hm
  | @memberUpdated info poolId lastStatus status b up vips _ _ hp hkey hup hlast hstatus
      hvips hrow =>
      rw [hrow]
      refine hnext.withStatuses fun m hm => ?_
      rcases keys_withStatus hm with hm | ⟨rfl, -⟩
      · exact hnext.statuses m hm
      · obtain ⟨a, ha, hai⟩ := ho
        exact Kept.taken_next h _ (hai ▸ hd.taken a ha)

end Members

end OvnOctavia

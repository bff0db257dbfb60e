import OvnOctavia.RouterLinks

/-!
Runs of load balancer, pool and member requests and of new router interfaces. Every row
stays linked to the routers it names and to what they connect, as long as no member is
removed that is the last counted one on a network that such a router connects.
-/

namespace OvnOctavia

section Members
variable {ver : Str → Option IpVersion} {ex : Nat → Str → Prop} {env : Env} {nb : Nb}
  {row lb : LoadBalancer} {u : Nat} {member : MemberInfo} {d : MemberData}
  {net : Str → Str}

/-- The router that is found is one of the database. -/
theorem findLrOfLs_mem {ls : LogicalSwitch} {gateway : Option Str} {lr : LogicalRouter}
    (h : findLrOfLs env nb ls gateway = .ok (some lr)) : lr ∈ nb.routers := by
  unfold findLrOfLs at h
  obtain ⟨port, -, h⟩ := Except.bind_eq_ok.mp h
  cases port with
  | none => cases h
  | some port =>
      dsimp only at h
      split at h
      · exact List.mem_of_find?_eq_some (Except.ok.inj h)
      · cases h

theorem Nb.Routed.router? {lr : LogicalRouter} (h : nb.Routed ver) (hm : lr ∈ nb.routers) :
    nb.router? lr.uuid = some lr := by
  cases hf : nb.router? lr.uuid with
  | none =>
      have := List.find?_eq_none.mp hf lr hm
      simp at this
  | some lr' =>
      obtain ⟨hm', hu⟩ := Nb.router?_eq_some hf
      rw [List.inj_on_of_nodup_map h.uuids hm' hm hu]

theorem LinkedAt.ends_findRelatedLr (h : LinkedAt env.ipVersion ex lb.uuid nb) (subnetId : Str) :
    nb.Ends (findRelatedLr env subnetId >>= fun lr =>
      match lr with
      | none => pure ()
      | some lr => associateLr env lb lr) (fun _ s => LinkedAt env.ipVersion ex lb.uuid s) := by
  unfold findRelatedLr
  refine .bind (.bind (.ofExcept ?_))
  cases env.neutronClient with
  | error e => exact h
  | ok client =>
      dsimp only
      cases env.getSubnet subnetId with
      | error e =>
          cases e with
          | resourceNotFound => exact .pure (.pure h)
          | _ => exact .throw h
      | ok subnet =>
          refine .get_bind ?_
          cases nb.switch? (.name (ovnName subnet.networkId)) with
          | none => exact .pure (.pure h)
          | some ls =>
              refine .ofExcept ?_
              rcases hlr : findLrOfLs env nb ls subnet.gatewayIp with e | _ | lr
              · exact h
              · exact .pure h
              · exact ends_associateLr h (h.1.routed.router? (findLrOfLs_mem hlr)) fun s hs _ => hs

theorem LinkedAt.maintains {α : Type} {p : Nbctl α} (hp : p.Uses Command.KeepsLinks) :
    Prog.Maintains Nb.apply Exc.rowNotFound (LinkedAt ver ex u) p :=
  .of_uses hp fun _ _ _ hc hs ha => hc.linkedAt hs ha

theorem keepsLinks_updateExternalIdsMemberStatus (lb : LoadBalancer) (member : Str)
    (status : Option Str) :
    (updateExternalIdsMemberStatus (some lb) member status).Uses Command.KeepsLinks := by
  refine .bind (uses_readLb lb) fun row => .bind (.ofExcept _) fun statuses =>
    .execute fun c hc => ?_
  have hkey : ovnMemberStatusKey ∉ linkKeys := by decide
  rw [List.mem_singleton.mp hc, storeMemberStatuses]
  split
  · exact hkey
  · intro k hk hm
    have hone : ∀ t : Str, (Dict.single ovnMemberStatusKey t).keys = [ovnMemberStatusKey] :=
      fun _ => rfl
    rw [hone, List.mem_singleton] at hm
    exact hkey (hm ▸ hk)

/-- The value of a pool changes, and the vips with it. -/
theorem LinkedAt.putPool (h : LinkedAt ver ex row.uuid nb) (hrow : nb.lb? row.uuid = some row)
    (poolId : Str) (up : Bool) (t : Str) (vips : Dict Str Str) :
    LinkedAt ver ex row.uuid (nb.putLb { row with
      externalIds := row.externalIds.set (getPoolKey poolId up) t, vips }) := by
  refine h.putLb hrow rfl rfl fun k hk => Dict.get?_set_of_ne _ _ fun he => ?_
  have hbase : ∀ k ∈ linkKeys, k ∈ baseKeys := by decide
  exact poolKey_notMem_base poolId up (he ▸ hbase k hk)

theorem LinkedAt.addMember {poolId : Str} {up : Bool} (h : LinkedAt env.ipVersion ex row.uuid nb)
    (hrow : nb.lb? row.uuid = some row) (hd : member.Describes d)
    (hreach : nb.Reaches env net d.subnet) :
    nb.Ends (OvnOctavia.addMember env member (some row) (getPoolKey poolId up))
      (fun _ s => LinkedAt env.ipVersion ex row.uuid s) := by
  refine ends_readLb ?_
  rw [live_of_lb? hrow]
  cases hv : row.externalIds.get? (getPoolKey poolId up) with
  | none => exact .throw h
  | some value =>
      refine .ofExcept_bind hd.text ?_
      split
      · exact .pure h
      · refine .bind (ends_addMemberOn h.1.wellFormed hrow (fun _ => h) fun vips => ?_)
        have h' := h.putPool hrow poolId up (Str.join ',' (poolItems value ++ [d.text])) vips
        obtain ⟨ls, hls⟩ := Option.isSome_iff_exists.mp hreach.switch
        refine .bind ?_
        unfold associateMember
        rw [hd.2.2.2]
        refine .bind (ends_joinLs h' hreach.resolves.network (hreach.resolves.lsNameOf true) hls rfl
          rfl fun s hs _ _ _ _ => ?_)
        refine (hs.ends_findRelatedLr d.subnet).mono fun r s hs => ?_
        cases r with
        | ok a => exact .pure hs
        | error e => exact hs

/-- What the removal of a member may not do: take the last count of a network that a
router of the row connects. -/
def LoadBalancer.KeepsNetwork (ver : Str → Option IpVersion) (nb : Nb) (row : LoadBalancer)
    (x : Str) : Prop :=
  (∃ k, 2 ≤ k ∧ (loadLsRefs row.externalIds).get? x = some k) ∨
    ∀ lr ∈ nb.routers, lr.name ∈ lrRefs row.externalIds → ∀ v, row.HasVersion ver v →
      ¬lr.Connects ver v x

theorem LinkedAt.removeMember {poolId : Str} {up : Bool}
    (h : LinkedAt env.ipVersion ex row.uuid nb) (hrow : nb.lb? row.uuid = some row)
    (hd : member.Describes d) (hreach : nb.Reaches env net d.subnet)
    (hkeep : ∀ value, row.externalIds.get? (getPoolKey poolId up) = some value →
      d.text ∈ value.splitOn ',' → row.KeepsNetwork env.ipVersion nb (ovnName (net d.subnet))) :
    nb.Ends (OvnOctavia.removeMember env member (some row) (getPoolKey poolId up))
      (fun _ s => LinkedAt env.ipVersion ex row.uuid s) := by
  refine ends_readLb ?_
  rw [live_of_lb? hrow]
  cases hv : row.externalIds.get? (getPoolKey poolId up) with
  | none => exact .throw h
  | some value =>
      refine .ofExcept_bind hd.text ?_
      split
      · next hm =>
          refine ends_readLb ?_
          rw [live_of_lb? hrow]
          have hhc := (h.1.rows row (Nb.lb?_eq_some hrow).1).unmonitored
          simp only [hhc, ne_eq, not_true_eq_false, if_false]
          refine .bind (ends_removeMemberOn h.1.wellFormed hrow (fun _ => h) fun vips => ?_)
          have h' := h.putPool hrow poolId up (Str.join ',' ((value.splitOn ',').erase d.text)) vips
          have hkeys : ∀ k ∈ linkKeys, (row.externalIds.set (getPoolKey poolId up)
              (Str.join ',' ((value.splitOn ',').erase d.text))).get? k =
                row.externalIds.get? k := by
            intro k hk
            refine Dict.get?_set_of_ne _ _ fun he => ?_
            have hbase : ∀ k ∈ linkKeys, k ∈ baseKeys := by decide
            exact poolKey_notMem_base poolId up (he ▸ hbase k hk)
          generalize hnew : ({ row with
            externalIds := row.externalIds.set (getPoolKey poolId up)
              (Str.join ',' ((value.splitOn ',').erase d.text))
            vips } : LoadBalancer) = new at h' ⊢
          have hu : new.uuid = row.uuid := hnew ▸ rfl
          have hids : new.externalIds = row.externalIds.set (getPoolKey poolId up)
              (Str.join ',' ((value.splitOn ',').erase d.text)) := hnew ▸ rfl
          have hget : (nb.putLb new).lb? row.uuid = some new := hu ▸ Nb.lb?_putLb new (hu ▸ hrow)
          obtain ⟨ls, hls⟩ := Option.isSome_iff_exists.mp hreach.switch
          rw [hd.2.2.2]
          refine ends_leaveLs h' hget hreach.resolves.network (hreach.resolves.lsNameOf false) hls
            rfl rfl rfl ?_ fun s hs => hs
          refine (hkeep value hv hm).imp (fun hk => ?_) fun hno r lr w hlr hname hw => ?_
          · rw [hids, loadLsRefs_congr (hkeys _ (by decide))]
            exact hk
          · have hrefs : lrRefs new.externalIds = lrRefs row.externalIds := by
              rw [lrRefs, lrRefs, hids, hkeys _ (by decide)]
            refine hno lr (Nb.router?_eq_some hlr).1 (hrefs ▸ hname) w ?_
            exact (LoadBalancer.HasVersion.congr (by rw [hids, hkeys _ (by decide)])).mp hw
      · exact .pure h

/-- The statuses of a row and of the load balancer, written and read at the end. -/
theorem LinkedAt.ends_statuses {α : Type} (h : LinkedAt ver ex row.uuid nb) (id : Str)
    (status : Option Str) (f : Status → α) :
    nb.Ends (updateExternalIdsMemberStatus (some row) id status >>= fun _ =>
      currentOperatingStatuses env (some row) >>= fun s => pure (f s))
      (fun _ s => Linked ver ex s) :=
  (LinkedAt.maintains (.bind (keepsLinks_updateExternalIdsMemberStatus row id status) fun _ =>
    .bind (uses_currentOperatingStatuses env (some row)) fun _ => .pure _) nb h).mono
      fun _ _ hs => hs.1

theorem Linked.memberCreate (h : Linked env.ipVersion ex nb) (hd : member.Describes d)
    (hreach : nb.Reaches env net d.subnet) :
    nb.Ends (OvnOctavia.memberCreate env member) (fun _ s => Linked env.ipVersion ex s) := by
  unfold OvnOctavia.memberCreate
  cases member.poolId with
  | none => exact .throw h
  | some poolId =>
      refine ends_findOvnLbByPoolId ?_
      rcases hf : nb.poolRow poolId with ⟨key, _ | row⟩
      · refine .bind (.attempt (.throw ?_))
        dsimp only
        cases member.adminStateUp with
        | none => exact .throw h
        | some b =>
            cases b with
            | false => exact .bind (.pure (.bind (.throw h)))
            | true => exact .bind (.pure (.bind (.throw h)))
      · obtain ⟨hm, -, up, rfl⟩ := Nb.poolRow_eq_some hf
        have hrow := h.wellFormed.lb?_of_mem hm
        have hat : LinkedAt env.ipVersion ex row.uuid nb := ⟨h, by rw [hrow]; rfl⟩
        refine .bind (.attempt ((hat.addMember hrow hd hreach).mono fun added s hs => ?_))
        have hrest : ∀ status, s.Ends (do
            updateExternalIdsMemberStatus (some row) member.id (some status)
            currentOperatingStatuses env (some row)) fun _ s => Linked env.ipVersion ex s :=
          fun status => (LinkedAt.maintains (.bind
            (keepsLinks_updateExternalIdsMemberStatus row member.id (some status)) fun _ =>
              uses_currentOperatingStatuses env (some row)) s hs).mono fun _ _ hs => hs.1
        dsimp only
        cases member.adminStateUp with
        | none => exact .throw hs.1
        | some b =>
            cases b with
            | false => exact .bind (.pure (hrest _))
            | true =>
                rcases added with e | _ | text
                · exact .bind (.pure (hrest _))
                · exact .bind (.pure (hrest _))
                · refine ends_readLb ?_
                  obtain ⟨live, hlive⟩ := Option.isSome_iff_exists.mp hs.2
                  rw [live_of_lb? hlive]
                  simp only [(hs.1.rows live (Nb.lb?_eq_some hlive).1).unmonitored, ne_eq,
                    not_true_eq_false, if_false]
                  exact .bind (.pure (hrest _))

theorem Linked.memberDelete (h : Linked env.ipVersion ex nb) (hd : member.Describes d)
    (hreach : nb.Reaches env net d.subnet)
    (hkeep : ∀ poolId key row value, member.poolId = some poolId →
      nb.poolRow poolId = (key, some row) → row.externalIds.get? key = some value →
      d.text ∈ value.splitOn ',' → row.KeepsNetwork env.ipVersion nb (ovnName (net d.subnet))) :
    nb.Ends (OvnOctavia.memberDelete env member) (fun _ s => Linked env.ipVersion ex s) := by
  unfold OvnOctavia.memberDelete
  cases hp : member.poolId with
  | none => exact .throw h
  | some poolId =>
      refine ends_findOvnLbByPoolId ?_
      rcases hf : nb.poolRow poolId with ⟨key, _ | row⟩
      · exact .bind (.attempt (.bind (.throw (.bind (.throw h)))))
      · obtain ⟨hm, -, up, rfl⟩ := Nb.poolRow_eq_some hf
        have hrow := h.wellFormed.lb?_of_mem hm
        have hat : LinkedAt env.ipVersion ex row.uuid nb := ⟨h, by rw [hrow]; rfl⟩
        refine .bind (.attempt (.bind ((hat.removeMember hrow hd hreach fun value hv hin =>
          hkeep poolId _ row value hp hf hv hin).mono fun r s hs => ?_)))
        cases r with
        | error e => exact hs.ends_statuses member.id none _
        | ok a =>
            refine ends_readLb ?_
            obtain ⟨live, hlive⟩ := Option.isSome_iff_exists.mp hs.2
            rw [live_of_lb? hlive]
            simp only [(hs.1.rows live (Nb.lb?_eq_some hlive).1).unmonitored, ne_eq,
              not_true_eq_false, if_false]
            exact .pure (hs.ends_statuses member.id none _)

end Members

section Creating
variable {ver : Str → Option IpVersion} {ex : Nat → Str → Prop} {env : Env} {nb : Nb}
  {row lb : LoadBalancer} {info : LoadBalancerInfo} {pool : PoolInfo}

theorem Linked.ends_deleteVipPorts (h : Linked ver ex nb) (port : Option Port)
    (additionalPorts : List (Option Port)) :
    nb.Ends (deleteVipPorts env port additionalPorts) (fun _ s => Linked ver ex s) := by
  refine Prog.Ends.of_uses (C := fun c => ∃ id, c = .portDelete id) (I := Linked ver ex)
    (uses_deleteVipPorts env (fun id => ⟨id, rfl⟩) port additionalPorts) ?_ h fun _ _ hs => hs
  rintro c s s' ⟨id, rfl⟩ hs ha
  cases ha
  exact hs.grow ⟨hs.wellFormed.nodup, hs.wellFormed.lt_next⟩ ⟨rfl, rfl⟩ fun x hx =>
    ⟨x, hx, rfl, rfl, fun _ _ => rfl, .of_same _ rfl rfl⟩

theorem Linked.ends_failed (h : Linked ver ex nb) (port : Option Port)
    (additionalPorts : List (Option Port)) (status : Status) :
    nb.Ends (deleteVipPorts env port additionalPorts >>= fun _ => pure status)
      (fun _ s => Linked ver ex s) := by
  refine .bind ((h.ends_deleteVipPorts port additionalPorts).mono fun r s hs => ?_)
  cases r with
  | error e => exact hs
  | ok a => exact .pure hs

/-- The VIP has an address, the switch of its network exists, and nothing is associated. -/
structure Env.CreatesLinked (env : Env) (nb : Nb) (info : LoadBalancerInfo) : Prop where
  vip : ∀ vip, info.vipAddress = some vip → (env.ipVersion vip).isSome
  port : ∀ port subnet, getPortFromInfo env info.vipPortId info.vipNetworkId info.vipAddress true =
    .ok (some port, subnet) → IsUuid port.networkId ∧
      (nb.switch? (.name (ovnName port.networkId))).isSome
  unassociated : info.lsRefs = none ∧ info.lrRef = none

/-- A row that was just written names no router. -/
theorem Linked.createLb (h : Linked ver ex nb) {vip : Str} (hvip : (ver vip).isSome)
    (hnone : info.lrRef = none) (name vipPortId : Str) (up : Bool) (fields : List Str) :
    Linked ver ex (nb.createLb name none (addVipKeys info (baseExternalIds vip vipPortId up))
      fields) := by
  refine ⟨h.wellFormed.createLb .., h.distinct, h.routed.of_topology ⟨rfl, rfl⟩, fun x hx => ?_⟩
  simp only [Nb.createLb, List.mem_append, List.mem_singleton] at hx
  rcases hx with hx | rfl
  · exact (h.rows x hx).grow rfl rfl (fun _ _ => rfl) (.of_same _ rfl rfl)
  · obtain ⟨v, hv⟩ := Option.isSome_iff_exists.mp hvip
    refine ⟨⟨v, vip, get?_addVipKeys_vip, hv⟩, rfl, ⟨fun _ => 0, ?_, ?_⟩, ?_⟩
    · intro n _
      rw [loadLsRefs_created]
      rfl
    · intro n _ hne
      exact absurd rfl hne
    · intro r lr _ hname
      have hget : (addVipKeys info (baseExternalIds vip vipPortId up)).get? lbExtIdsLrRefKey =
          none := by
        rw [addVipKeys, get?_setNonempty, hnone, if_neg (by simp), get?_setNonempty,
          if_neg (fun h => absurd h.1 (by decide)), get?_setNonempty,
          if_neg (fun h => absurd h.1 (by decide)),
          get?_addAdditionalVips _ _ (by decide) (by decide)]
        rfl
      have hrefs : lrRefs (addVipKeys info (baseExternalIds vip vipPortId up)) = [] := by
        rw [lrRefs, hget]
      rw [hrefs] at hname
      cases hname

theorem LinkedAt.associateNewLb (h : LinkedAt env.ipVersion ex row.uuid nb) {port : Port}
    {subnet : Option Subnet} (hport : IsUuid port.networkId)
    (hswitch : (nb.switch? (.name (ovnName port.networkId))).isSome) (hnone : info.lsRefs = none) :
    nb.Ends (OvnOctavia.associateNewLb env info row port subnet)
      (fun _ s => LinkedAt env.ipVersion ex row.uuid s) := by
  have hnet : ∃ c t, port.networkId = c :: t := by
    refine List.exists_cons_of_ne_nil fun he => ?_
    exact absurd (he ▸ hport.1) (by decide)
  obtain ⟨c, t, hct⟩ := hnet
  have hname : lsNameOf env { networkId := some port.networkId, additionalVips := true } =
      .ok (some (some (ovnName port.networkId))) := by
    rw [hct]
    rfl
  have hrest : ∀ s : Nb, LinkedAt env.ipVersion ex row.uuid s →
      (s.switch? (.name (ovnName port.networkId))).isSome →
      s.Ends (lsGet (ovnName port.networkId) >>= fun ls =>
        associateVipLr env row ls subnet >>= fun _ => associateCountedLs env row ls info.lsRefs)
        (fun _ s => LinkedAt env.ipVersion ex row.uuid s) := by
    intro s hs hls
    obtain ⟨ls, hls⟩ := Option.isSome_iff_exists.mp hls
    refine ends_lsGet hls ?_
    rw [hnone]
    unfold associateVipLr
    cases subnet with
    | none => exact .bind (.throw hs)
    | some subnet =>
        refine .bind (.get_bind (.bind (.ofExcept ?_)))
        rcases hlr : findLrOfLs env s ls subnet.gatewayIp with e | _ | lr
        · exact hs
        · exact .pure (.pure hs)
        · exact ends_associateLr hs (hs.1.routed.router? (findLrOfLs_mem hlr)) fun s hs _ =>
            .pure hs
  obtain ⟨ls, hls⟩ := Option.isSome_iff_exists.mp hswitch
  unfold OvnOctavia.associateNewLb
  refine .bind (.ofExcept ?_)
  cases hnetwork : env.getNetwork port.networkId with
  | error e => exact h
  | ok network =>
      cases network with
      | none => exact .bind (.throw h)
      | some network =>
          have hjoin : nb.Ends (updateLbToLsAssociation env row
              { networkId := some port.networkId, additionalVips := true } >>= fun _ =>
                lsGet (ovnName port.networkId) >>= fun ls =>
                  associateVipLr env row ls subnet >>= fun _ =>
                    associateCountedLs env row ls info.lsRefs)
              (fun _ s => LinkedAt env.ipVersion ex row.uuid s) := by
            refine .bind (ends_joinLs h hport hname hls rfl rfl fun s hs ht _ _ _ => ?_)
            exact hrest s hs (by rw [ht.isSome_switch?, hswitch])
          dsimp only
          unfold associateVipLs
          dsimp only
          split
          · exact .bind (.pure (hrest nb h hswitch))
          · exact hjoin

theorem Linked.lbCreate (h : Linked env.ipVersion ex nb) (hc : env.CreatesLinked nb info) :
    nb.Ends (OvnOctavia.lbCreate env info none) (fun _ s => Linked env.ipVersion ex s) := by
  unfold OvnOctavia.lbCreate
  rcases hv : vipPorts env info with ⟨⟨port, subnet, additionalPorts⟩, e | ok⟩
  · exact h.ends_failed port additionalPorts _
  · dsimp only
    cases hvid : vipPortIdOf info port with
    | error e => exact .bind (.throw h)
    | ok vipPortId =>
        have hfound := getPortFromInfo_of_vipPorts hv
        refine .ofExcept_bind rfl ?_
        split
        · next vip up hvip hup =>
            refine .bind (.attempt ?_)
            suffices hrow : nb.Ends (createLbRow env info none
                (addVipKeys info (baseExternalIds vip vipPortId up)) port subnet)
                (fun _ s => Linked env.ipVersion ex s) from
              hrow.mono fun r s hs => by
                cases r with
                | ok a => exact .pure hs
                | error e => exact hs.ends_failed port additionalPorts _
            unfold createLbRow
            refine .bind (.transaction h ?_)
            have hcreated := h.createLb (hc.vip vip hvip) hc.unassociated.2 info.id vipPortId up
              (if env.areSelectionFieldsSupported then getSelectionKeys info.lbAlgorithm else [])
            refine .bind (.bind (.read ?_))
            cases hrows : Nb.lbsNamed _ info.id with
            | nil => exact .throw hcreated
            | cons row rows =>
                have hm : row ∈ Nb.lbsNamed _ info.id := hrows ▸ List.mem_cons_self ..
                have hget := hcreated.wellFormed.lb?_of_mem (Nb.mem_lbsNamed.mp hm).1
                refine .pure (.pure ?_)
                cases port with
                | none => exact .throw hcreated
                | some port =>
                    obtain ⟨hport, hswitch⟩ := hc.port port subnet hfound
                    have hat : LinkedAt env.ipVersion ex row.uuid _ :=
                      ⟨hcreated, by rw [hget]; rfl⟩
                    exact (hat.associateNewLb hport hswitch hc.unassociated.1).mono
                      fun _ _ hs => hs.1
        · exact h.ends_failed port additionalPorts _
        · exact .throw h

/-- The row of the pool's protocol is used; none is created. -/
theorem Linked.getOrCreateOvnLb (h : Linked ver ex nb) {lbId : Str} {p : Protocol}
    (hp : ∀ row ∈ nb.lbsNamed lbId, row.protocol = none ∨ row.protocol = some p) (up : Bool)
    (alg : Option LbAlgorithm) :
    nb.Ends (OvnOctavia.getOrCreateOvnLb env lbId p up alg)
      (fun r s => Linked ver ex s ∧ ∀ row, r = .ok row → row ∈ s.lbsNamed lbId) := by
  unfold OvnOctavia.getOrCreateOvnLb
  refine .bind (.read ?_)
  cases hrows : nb.lbsNamed lbId with
  | nil => exact .throw ⟨h, nofun⟩
  | cons first rows =>
      refine .pure ?_
      dsimp only
      cases hfind : (first :: rows).find? (·.protocol = some p) with
      | some row =>
          refine .pure ⟨h, fun row' hr => ?_⟩
          cases hr
          rw [hrows]
          exact List.mem_of_find?_eq_some hfind
      | none =>
          have hnone : ∀ row ∈ first :: rows, row.protocol = none := by
            intro row hm
            have hne := List.find?_eq_none.mp hfind row hm
            exact (hp row (hrows ▸ hm)).resolve_right (by simpa using hne)
          have hfirst : (first :: rows).find? (·.protocol = none) = some first := by
            simp [hnone first (List.mem_cons_self ..)]
          have hm : first ∈ nb.lbsNamed lbId := hrows ▸ List.mem_cons_self ..
          have hget := h.wellFormed.lb?_of_mem (Nb.mem_lbsNamed.mp hm).1
          have hat : LinkedAt ver ex first.uuid nb := ⟨h, by rw [hget]; rfl⟩
          unfold provideOvnLb
          rw [hfirst]
          refine .bind (.transaction ⟨h, nofun⟩ ?_)
          rw [Prog.transact_cons, Nb.apply_lbUpdate hget,
            Nb.updateLb_eq_putLb h.wellFormed hget rfl]
          refine .read (.ofExcept ⟨?_, fun row' hr => (selectOvnLb_ok hr).1⟩)
          have hput : LinkedAt ver ex first.uuid (nb.putLb { first with protocol := some p }) :=
            hat.putLb hget rfl rfl fun _ _ => rfl
          exact hput.1

theorem LinkedAt.poolCreateOn {up : Bool} (h : LinkedAt ver ex row.uuid nb)
    (hrow : nb.lb? row.uuid = some row) :
    nb.Ends (OvnOctavia.poolCreateOn pool up row) (fun _ s => LinkedAt ver ex row.uuid s) := by
  have ho := run_poolCreateOn h.1.wellFormed hrow pool up
  unfold OvnOctavia.poolCreateOn at ho ⊢
  simp only [Prog.run_bind, run_readLb] at ho
  refine ends_readLb (ends_executeCommands _ _ ho h (h.putLb hrow rfl rfl fun k hk => ?_))
  have hbase : ∀ k ∈ linkKeys, k ∈ baseKeys := by decide
  have hpool : k ≠ getPoolKey pool.id up :=
    fun he => poolKey_notMem_base pool.id up (he ▸ hbase k hk)
  rcases poolCreateExternalIds_cases pool up row.externalIds with he | ⟨l, v, -, -, -, he⟩
  · rw [he, Dict.get?_set_of_ne _ _ hpool]
  · have hlistener : k ≠ getListenerKey l true :=
      fun he => listenerKey_notMem_base l true (he ▸ hbase k hk)
    rw [he, Dict.get?_set_of_ne _ _ hlistener, Dict.get?_set_of_ne _ _ hpool]

theorem Linked.poolCreate (h : Linked ver ex nb)
    (hp : ∀ row ∈ nb.lbsNamed pool.loadbalancerId,
      row.protocol = none ∨ row.protocol = some pool.protocol) :
    nb.Ends (OvnOctavia.poolCreate env pool) (fun _ s => Linked ver ex s) := by
  unfold OvnOctavia.poolCreate
  cases hup : pool.adminStateUp with
  | none => exact .throw h
  | some up =>
      dsimp only
      refine .bind ((h.getOrCreateOvnLb hp up pool.lbAlgorithm).mono fun r s hs => ?_)
      cases r with
      | error e => exact hs.1
      | ok row =>
          have hget := hs.1.wellFormed.lb?_of_mem (Nb.mem_lbsNamed.mp (hs.2 row rfl)).1
          have hat : LinkedAt ver ex row.uuid s := ⟨hs.1, by rw [hget]; rfl⟩
          refine .bind (.attempt ((hat.poolCreateOn hget).mono fun r s hs => ?_))
          cases r with
          | ok a => exact .pure hs.1
          | error e => exact .pure hs.1

end Creating

section Interfaces
variable {ver : Str → Option IpVersion} {ex ex' : Nat → Str → Prop} {env : Env} {nb : Nb}
  {ls : LogicalSwitch} {lr : LogicalRouter} {port : LogicalRouterPort} {n : Str}

/-- A router gets a port. -/
def Nb.addRouterPort (nb : Nb) (r : Nat) (port : LogicalRouterPort) : Nb :=
  nb.updateRouter r fun lr => { lr with ports := lr.ports ++ [port] }

/-- The port is one on the switch, and has an address. -/
structure LogicalRouterPort.On (ver : Str → Option IpVersion) (port : LogicalRouterPort)
    (ls : LogicalSwitch) : Prop where
  name : ∃ c name, port.externalIds.get? ovnNetworkNameExtIdKey = some (c :: name) ∧
    ovnName (c :: name) = ls.name
  address : ∃ network rest, port.networks = network :: rest ∧ (ver network).isSome

/-- What is exempt may be linked later. -/
theorem Linked.discharge (h : Linked ver ex nb)
    (hd : ∀ row ∈ nb.loadBalancers, ∀ r lr x, nb.router? r = some lr →
      lr.name ∈ lrRefs row.externalIds → ex r x → ¬ex' r x → nb.LinkedTo row.uuid x) :
    Linked ver ex' nb := by
  refine ⟨h.wellFormed, h.distinct, h.routed, fun row hm => ?_⟩
  have hr := h.rows row hm
  refine ⟨hr.vip, hr.unmonitored, hr.refs, fun r lr hlr hname => ?_⟩
  obtain ⟨hl, hs⟩ := hr.routers r lr hlr hname
  refine ⟨hl, fun v x hv hc hx => ?_⟩
  by_cases he : ex r x
  · exact hd row hm r lr x hlr hname he hx
  · exact hs v x hv hc he

/-- The switch of a new port is still to be linked. -/
theorem Linked.addRouterPort (h : Linked ver (fun _ _ => False) nb)
    (hls : nb.switch? (.name ls.name) = some ls) (hport : port.On ver ls) (r : Nat) :
    Linked ver (fun r' x => r' = r ∧ x = ls.name ∧ port.gatewayChassis = false)
      (nb.addRouterPort r port) := by
  have hmap : ∀ {β : Type} (f : LogicalRouter → β),
      (∀ lr : LogicalRouter, f { lr with ports := lr.ports ++ [port] } = f lr) →
      (nb.addRouterPort r port).routers.map f = nb.routers.map f :=
    fun f hf => map_updateRouter nb r fun lr _ => hf lr
  have hold : ∀ lr' ∈ (nb.addRouterPort r port).routers, ∃ lr ∈ nb.routers,
      lr'.uuid = lr.uuid ∧ lr'.name = lr.name ∧ lr'.loadBalancer = lr.loadBalancer ∧
        ∀ p ∈ lr'.ports, p ∈ lr.ports ∨ lr'.uuid = r ∧ p = port := by
    intro lr' hm
    obtain ⟨lr, hlr, rfl⟩ := List.mem_map.mp hm
    refine ⟨lr, hlr, ?_⟩
    split
    · next hu => exact ⟨rfl, rfl, rfl, fun p hp => by simpa [hu] using hp⟩
    · exact ⟨rfl, rfl, rfl, fun p hp => .inl hp⟩
  -- what a router with the port connects, it connected before, or it is the switch
  have hconnects : ∀ lr lr' : LogicalRouter, (∀ p ∈ lr'.ports, p ∈ lr.ports ∨ lr'.uuid = r ∧
      p = port) → ∀ v x, lr'.Connects ver v x → lr.Connects ver v x ∨
        lr'.uuid = r ∧ x = ls.name ∧ port.gatewayChassis = false := by
    rintro lr lr' hp v x ⟨p, hm, hs⟩
    rcases hp p hm with hm | ⟨hu, rfl⟩
    · exact .inl ⟨p, hm, hs⟩
    · obtain ⟨c, name, hname, hx⟩ := hs.2.2
      obtain ⟨c', name', hname', hls'⟩ := hport.name
      rw [hname, Option.some.injEq] at hname'
      exact .inr ⟨hu, by rw [hx, hname', hls'], hs.1⟩
  have hrouted : (nb.addRouterPort r port).Routed ver := by
    refine ⟨?_, ?_, ?_, ?_, ?_⟩
    · rw [hmap LogicalRouter.uuid fun _ => rfl]
      exact h.routed.uuids
    · rw [hmap LogicalRouter.name fun _ => rfl]
      exact h.routed.names
    · intro lr' hm
      obtain ⟨lr, hlr, -, hn, -⟩ := hold lr' hm
      exact hn ▸ h.routed.spelled lr hlr
    · intro lr' hm p hp hg
      obtain ⟨lr, hlr, -, -, -, hports⟩ := hold lr' hm
      rcases hports p hp with hp | ⟨-, rfl⟩
      · exact h.routed.addressed lr hlr p hp hg
      · exact hport.address
    · intro lr' hm v x hc
      obtain ⟨lr, hlr, -, -, -, hports⟩ := hold lr' hm
      rcases hconnects lr lr' hports v x hc with hc | ⟨-, rfl, -⟩
      · exact h.routed.switches lr hlr v x hc
      · change (nb.switch? (.name ls.name)).isSome
        rw [hls]
        rfl
  refine ⟨⟨h.wellFormed.nodup, h.wellFormed.lt_next⟩, h.distinct, hrouted, fun row hm => ?_⟩
  have hr := h.rows row hm
  obtain ⟨total, htotal⟩ := hr.refs
  refine ⟨hr.vip, hr.unmonitored, ⟨total, ?_⟩, fun r' lr' hlr' hname => ?_⟩
  · exact Counted.refs_of_same htotal rfl rfl fun _ hx => hx.of_switches rfl
  · obtain ⟨hm', hu'⟩ := Nb.router?_eq_some hlr'
    obtain ⟨lr, hlr, hu, hn, hl, hports⟩ := hold lr' hm'
    obtain ⟨hlink, hs⟩ := hr.routers lr.uuid lr (h.routed.router? hlr) (hn ▸ hname)
    refine ⟨hl ▸ hlink, fun v x hv hc hx => ?_⟩
    rcases hconnects lr lr' hports v x hc with hc | ⟨hur, he⟩
    · exact (hs v x hv hc nofun).of_switches rfl
    · exact absurd ⟨hu' ▸ hur, he⟩ hx

/-- What holds while the rows of a switch and a router are associated, from `nb` on. -/
structure Joining (ver : Str → Option IpVersion) (ex : Nat → Str → Prop) (nb : Nb)
    (ls : LogicalSwitch) (s : Nb) : Prop where
  linked : Linked ver ex s
  topology : nb.SameTopology s
  links : ∀ v x, nb.LinkedTo v x → s.LinkedTo v x
  alive : ∀ v, (nb.lb? v).isSome → (s.lb? v).isSome
  rows : ∀ row ∈ s.loadBalancers, row ∈ nb.loadBalancers ∨ row.uuid ∈ ls.loadBalancer

theorem Joining.associateLr {s : Nb} {lb : LoadBalancer}
    (h : Joining env.ipVersion ex nb ls s) (hlr : nb.router? lr.uuid = some lr)
    (hlb : (nb.lb? lb.uuid).isSome) (hin : lb.uuid ∈ ls.loadBalancer) :
    s.Ends (associateLr env lb lr)
      (fun r s' => r = .ok () ∧ Joining env.ipVersion ex nb ls s') := by
  obtain ⟨live, hlive, -⟩ := h.topology.router? hlr
  refine ends_associateLr ⟨h.linked, h.alive _ hlb⟩ hlive fun s' hs hj => ⟨rfl, hs.1,
    h.topology.trans (hj.grows 0).topology, fun v x hx => (hj.grows v).switches x (h.links v x hx),
    fun v hv => hj.alive v (h.alive v hv), fun row hm => ?_⟩
  by_cases hu : row.uuid = lb.uuid
  · exact .inr (hu ▸ hin)
  · exact h.rows row (hj.others row hm hu)

theorem Joining.joinLs {s : Nb} {lb : LoadBalancer} (h : Joining ver ex nb ls s)
    (hlb : (nb.lb? lb.uuid).isSome) (hn : IsUuid n) (hname : ls.name = ovnName n)
    (hls : nb.switch? (.name ls.name) = some ls) :
    s.Ends ((updateLbToLsAssociation env lb
        { networkId := some (ovnUuid ls.name), updateLsRef := false }).tryCatch fun e =>
          if e = .rowNotFound then pure () else throw e)
      (fun r s' => r = .ok () ∧ Joining ver ex nb ls s' ∧ s'.LinkedTo lb.uuid ls.name ∧
        ∀ v x, s.LinkedTo v x → s'.LinkedTo v x) := by
  obtain ⟨c, t, hct⟩ := List.exists_cons_of_ne_nil fun he : n = [] =>
    absurd (he ▸ hn.1) (by decide)
  have hlsName : lsNameOf env { networkId := some (ovnUuid ls.name), updateLsRef := false } =
      .ok (some (some (ovnName n))) := by
    rw [hname, ovnUuid_ovnName hn, hct]
    rfl
  have hsome := h.topology.isSome_switch? ls.name
  rw [hls, hname] at hsome
  obtain ⟨ls', hls'⟩ := Option.isSome_iff_exists.mp hsome
  refine .tryCatch (ends_joinLs ⟨h.linked, h.alive _ hlb⟩ hn hlsName hls' rfl rfl
    fun s' hs ht hl hdone hrows => ⟨rfl, ⟨hs.1, h.topology.trans ht, fun v x hx => hl v x
      (h.links v x hx), fun v hv => ?_, fun row hm => ?_⟩, hname ▸ hdone, hl⟩)
  · rw [Nb.lb?, hrows rfl]
    exact h.alive v hv
  · exact h.rows row (hrows rfl ▸ hm)

/-- Every row that names the router of a new interface gets linked to its switch. -/
theorem Linked.lbCreateLrpAssoc {isGwPort : Bool}
    (h : Linked env.ipVersion (fun _ _ => False) nb) (hn : IsUuid n) (hname : ls.name = ovnName n)
    (hls : nb.switch? (.name ls.name) = some ls) (hport : port.On env.ipVersion ls)
    (hlr : (nb.router? lr.uuid).isSome) (hgw : isGwPort = true → port.gatewayChassis = true) :
    (nb.addRouterPort lr.uuid port).Ends (OvnOctavia.lbCreateLrpAssoc env ls lr isGwPort)
      (fun _ s => Linked env.ipVersion (fun _ _ => False) s) := by
  have h₀ := h.addRouterPort hls hport lr.uuid
  obtain ⟨old, hold⟩ := Option.isSome_iff_exists.mp hlr
  obtain ⟨live, hlive, hu⟩ : ∃ live, (nb.addRouterPort lr.uuid port).router? lr.uuid = some live ∧
      live.uuid = lr.uuid := by
    have := Nb.router?_updateRouter nb lr.uuid lr.uuid
      (f := fun lr => { lr with ports := lr.ports ++ [port] }) fun _ => rfl
    rw [hold, Option.map_some] at this
    exact ⟨_, this, (Nb.router?_eq_some this).2⟩
  have hls₀ : (nb.addRouterPort lr.uuid port).switch? (.name ls.name) = some ls := hls
  have huuid : (nb.addRouterPort lr.uuid port).switch? (.uuid ls.uuid) = some ls :=
    h₀.distinct.switch? (Nb.switch?_name_eq_some hls₀).1
  generalize nb.addRouterPort lr.uuid port = s₀ at h₀ hlive hls₀ huuid ⊢
  unfold OvnOctavia.lbCreateLrpAssoc
  refine .get_bind ?_
  rw [huuid, hlive]
  simp only [Option.getD_some]
  have hstart : Joining env.ipVersion _ s₀ ls s₀ :=
    ⟨h₀, .refl s₀, fun _ _ hx => hx, fun _ hv => hv, fun row hm => .inl hm⟩
  refine .bind ((Prog.Ends.each (I := Joining env.ipVersion _ s₀ ls) (D := fun _ _ => True)
    (fun lb hlb s hs => ?_) hstart).mono ?_)
  · obtain ⟨v, hv, hget⟩ := List.mem_filterMap.mp hlb
    obtain ⟨-, rfl⟩ := Nb.lb?_eq_some hget
    exact (hs.associateLr (hu ▸ hlive) (by rw [hget]; rfl) (List.mem_of_mem_filter hv)).mono
      fun r s' hr => ⟨hr.1, hr.2, trivial, fun _ _ => trivial⟩
  rintro _ s ⟨rfl, hs, -, -⟩
  cases isGwPort with
  | true =>
      refine .pure (hs.linked.discharge ?_)
      rintro row - r lr x - - ⟨-, -, hg⟩ -
      rw [hgw rfl] at hg
      cases hg
  | false =>
      refine (Prog.Ends.each (I := Joining env.ipVersion _ s₀ ls)
        (D := fun lb s => s.LinkedTo lb.uuid ls.name) (fun lb hlb s hs => ?_) hs).mono ?_
      · obtain ⟨v, -, hget⟩ := List.mem_filterMap.mp hlb
        obtain ⟨-, rfl⟩ := Nb.lb?_eq_some hget
        exact (hs.joinLs (by rw [hget]; rfl) hn hname hls₀).mono
          fun r s' hr => ⟨hr.1, hr.2.1, hr.2.2.1, fun b hb => hr.2.2.2 _ _ hb⟩
      rintro _ s' ⟨-, hs', hdone, -⟩
      refine hs'.linked.discharge ?_
      rintro row hm r lr' x hlr' hnamed ⟨rfl, rfl, -⟩ -
      have hin : row.uuid ∈ ls.loadBalancer → s'.LinkedTo row.uuid ls.name := by
        refine fun hin => hs'.links _ _ fun ls' hls' => ?_
        rw [hls₀] at hls'
        cases hls'
        exact hin
      by_cases hl : row.uuid ∈ ls.loadBalancer
      · exact hin hl
      · have hold := (hs'.rows row hm).resolve_right hl
        have hget := h₀.wellFormed.lb?_of_mem hold
        have hnames : lr'.name = live.name := by
          obtain ⟨lr'', hlr'', hbare⟩ := hs'.topology.router? hlive
          rw [hlr'] at hlr''
          cases hlr''
          have : lr'.bare.name = live.bare.name := congrArg LogicalRouter.name hbare
          exact this
        have hlink := ((h₀.rows row hold).routers _ live hlive (hnames ▸ hnamed)).1
        refine hdone row (List.mem_filterMap.mpr ⟨row.uuid, ?_, hget⟩)
        simp [hlink, hl]

end Interfaces

section Runs
variable {ver : Str → Option IpVersion} {env : Env} {nb nb' : Nb}

/-- One request of a run, or one new router interface with its event; the last counted
member of a network is only removed where `ok` allows it. All switches exist. -/
inductive RouterStep (ver : Str → Option IpVersion) (ok : Nb → LoadBalancer → Str → Prop) :
    Nb → Nb → Prop
  | lbCreate {nb : Nb} {env : Env} {marks : List Bool} {info : LoadBalancerInfo}
      (hm : Prog.Spared marks) (hver : env.ipVersion = ver) (hc : env.CreatesLinked nb info) :
      RouterStep ver ok nb (handledFlaky env marks (.lbCreate info) nb)
  | poolCreate {nb : Nb} {env : Env} {marks : List Bool} {pool : PoolInfo}
      (hm : Prog.Spared marks) (hp : ∀ row ∈ nb.lbsNamed pool.loadbalancerId,
        row.protocol = none ∨ row.protocol = some pool.protocol) :
      RouterStep ver ok nb (handledFlaky env marks (.poolCreate pool) nb)
  | memberCreate {nb : Nb} {env : Env} {marks : List Bool} {member : MemberInfo}
      {d : MemberData} {net : Str → Str} (hm : Prog.Spared marks) (hver : env.ipVersion = ver)
      (hd : member.Describes d) (hreach : nb.Reaches env net d.subnet) :
      RouterStep ver ok nb (handledFlaky env marks (.memberCreate member) nb)
  | memberDelete {nb : Nb} {env : Env} {marks : List Bool} {member : MemberInfo}
      {d : MemberData} {net : Str → Str} (hm : Prog.Spared marks) (hver : env.ipVersion = ver)
      (hd : member.Describes d) (hreach : nb.Reaches env net d.subnet)
      (hok : ∀ poolId key row value, member.poolId = some poolId →
        nb.poolRow poolId = (key, some row) → row.externalIds.get? key = some value →
        d.text ∈ value.splitOn ',' → ok nb row (ovnName (net d.subnet))) :
      RouterStep ver ok nb (handledFlaky env marks (.memberDelete member) nb)
  | addInterface {nb : Nb} {env : Env} {marks : List Bool} {ls : LogicalSwitch}
      {lr : LogicalRouter} {port : LogicalRouterPort} {isGwPort : Bool} {n : Str}
      (hm : Prog.Spared marks) (hver : env.ipVersion = ver) (hn : IsUuid n)
      (hname : ls.name = ovnName n) (hls : nb.switch? (.name ls.name) = some ls)
      (hport : port.On ver ls) (hlr : (nb.router? lr.uuid).isSome)
      (hgw : isGwPort = true → port.gatewayChassis = true) :
      RouterStep ver ok nb (handledFlaky env marks (.lbCreateLrpAssoc ls lr isGwPort)
        (nb.addRouterPort lr.uuid port))

/-- Every row is linked to the routers it names, and to the switches behind their own
ports of the version of its VIP. -/
def RoutersReach (ver : Str → Option IpVersion) (nb : Nb) : Prop :=
  ∀ row ∈ nb.loadBalancers, ∀ lr ∈ nb.routers, lr.name ∈ lrRefs row.externalIds →
    row.uuid ∈ lr.loadBalancer ∧ ∀ v x ls, row.HasVersion ver v → lr.Connects ver v x →
      nb.switch? (.name x) = some ls → row.uuid ∈ ls.loadBalancer

theorem Linked.routersReach (h : Linked ver (fun _ _ => False) nb) : RoutersReach ver nb := by
  intro row hrow lr hlr hname
  obtain ⟨hl, hs⟩ := (h.rows row hrow).routers lr.uuid lr (h.routed.router? hlr) hname
  exact ⟨hl, fun v x ls hv hc hls => hs v x hv hc nofun ls hls⟩

theorem RouterStep.keeps (hs : RouterStep ver (fun nb row x => row.KeepsNetwork ver nb x) nb nb')
    (h : Linked ver (fun _ _ => False) nb) : Linked ver (fun _ _ => False) nb' := by
  cases hs with
  | lbCreate hm hver hc =>
      subst hver
      exact Nb.Ends.of_handle (h.lbCreate hc).map hm
  | poolCreate hm hp => exact Nb.Ends.of_handle (h.poolCreate hp).map hm
  | memberCreate hm hver hd hreach =>
      subst hver
      exact Nb.Ends.of_handle (h.memberCreate hd hreach).map hm
  | memberDelete hm hver hd hreach hok =>
      subst hver
      exact Nb.Ends.of_handle (h.memberDelete hd hreach hok).map hm
  | addInterface hm hver hn hname hls hport hlr hgw =>
      subst hver
      exact Nb.Ends.of_handle (h.lbCreateLrpAssoc hn hname hls hport hlr hgw).map hm

/-- In a run that never removes the last counted member of a network that a named router
connects, every row stays linked to its routers and their switches. -/
theorem routersReach_of_run {nb₀ : Nb} (hd : nb₀.DistinctSwitches) (hr : nb₀.Routed ver)
    (hnone : nb₀.loadBalancers = [])
    (hrun : Relation.ReflTransGen
      (RouterStep ver fun nb row x => row.KeepsNetwork ver nb x) nb₀ nb) :
    RoutersReach ver nb := by
  refine Linked.routersReach ?_
  induction hrun with
  | refl =>
      refine ⟨⟨?_, ?_⟩, hd, hr, ?_⟩ <;> rw [hnone]
      · exact List.nodup_nil
      · exact nofun
      · exact nofun
  | tail _ hs ih => exact hs.keeps ih

end Runs

section Example

def exampleRouterPort (network : Str) (cidr : Str) : LogicalRouterPort :=
  { name := "lrp-port".toList, gatewayChassis := false, networks := [cidr]
    externalIds := Dict.single ovnNetworkNameExtIdKey (ovnName network) }

def exampleVipRouter : LogicalRouter :=
  { uuid := 3, name := "neutron-router".toList, loadBalancer := []
    ports := [exampleRouterPort (exampleId 'd') "10.0.0.1/24".toList], externalIds := ∅ }

/-- The port of the router on the switch of the VIP. -/
def exampleSwitchPort : LogicalSwitchPort :=
  { name := "port".toList, type := "router".toList
    externalIds := Dict.single ovnDeviceOwnerExtIdKey deviceOwnerRouterIntf
    options := Dict.single "router-port".toList "lrp-port".toList, addresses := [] }

def exampleBackend : LogicalSwitch := ⟨2, ovnName (exampleId '0'), [], []⟩

/-- Two switches; the router has a port on the one of the VIP. -/
def exampleRoutedNb : Nb :=
  { exampleNb with
    switches := [⟨1, ovnName (exampleId 'd'), [], [exampleSwitchPort]⟩, exampleBackend]
    routers := [exampleVipRouter] }

/-- Subnets other than that of the VIP belong to the second network. -/
def exampleNet (subnetId : Str) : Str :=
  if subnetId = "sub".toList then exampleId 'd' else exampleId '0'

def exampleRoutedEnv : Env :=
  { exampleTenantEnv with
    getSubnet := fun id => .ok ⟨exampleNet id, none, "10.0.0.0/24".toList⟩ }

def exampleBackendPort : LogicalRouterPort :=
  exampleRouterPort (exampleId '0') "10.0.1.1/24".toList

def exampleBackendMember : MemberInfo :=
  { exampleMember with address := some "10.0.1.7".toList, subnetId := some "back".toList }

def exampleBackendData : MemberData :=
  { exampleMemberData with ip := "10.0.1.7".toList, subnet := "back".toList }

def exampleRouted₁ : Nb := handledFlaky exampleRoutedEnv [] (.lbCreate exampleLb) exampleRoutedNb

def exampleRouted₂ : Nb :=
  handledFlaky exampleRoutedEnv [] (.lbCreateLrpAssoc exampleBackend exampleVipRouter false)
    (exampleRouted₁.addRouterPort exampleVipRouter.uuid exampleBackendPort)

def exampleRouted₃ : Nb :=
  handledFlaky exampleRoutedEnv [] (.poolCreate examplePool) exampleRouted₂

def exampleRouted₄ : Nb :=
  handledFlaky exampleRoutedEnv [] (.memberCreate exampleBackendMember) exampleRouted₃

def exampleRouted₅ : Nb :=
  handledFlaky exampleRoutedEnv [] (.memberDelete exampleBackendMember) exampleRouted₄

theorem routed_example : exampleRoutedNb.Routed exampleEnv.ipVersion where
  uuids := List.nodup_singleton _
  names := List.nodup_singleton _
  spelled := by decide
  addressed := by
    intro lr hlr port hport _
    rw [List.mem_singleton.mp hlr] at hport
    rw [List.mem_singleton.mp hport]
    exact ⟨_, _, rfl, by decide⟩
  switches := by
    rintro lr hlr v x ⟨port, hport, -, -, c, name, hname, rfl⟩
    rw [List.mem_singleton.mp hlr] at hport
    rw [List.mem_singleton.mp hport] at hname
    have hx : c :: name = ovnName (exampleId 'd') := (Option.some.inj hname).symm
    rw [hx]
    decide +kernel

theorem reaches_example {nb : Nb} (h : (nb.switch? (.name (ovnName (exampleId '0')))).isSome) :
    nb.Reaches exampleRoutedEnv exampleNet exampleBackendData.subnet :=
  ⟨⟨rfl, ⟨_, rfl, rfl⟩, isUuid_exampleId (by decide), by decide⟩, h⟩

section
variable (ok : Nb → LoadBalancer → Str → Prop)

/-- A load balancer with a router, which then gets a port on the switch of its member. -/
theorem run_example : Relation.ReflTransGen (RouterStep exampleEnv.ipVersion ok)
    exampleRoutedNb exampleRouted₄ := by
  have hcreate : RouterStep exampleEnv.ipVersion ok exampleRoutedNb exampleRouted₁ := by
    refine .lbCreate Prog.spared_nil rfl ⟨?_, ?_, rfl, rfl⟩
    · intro vip h
      cases h
      rfl
    · intro port subnet h
      cases h
      exact ⟨isUuid_exampleId (by decide), by decide +kernel⟩
  have hinterface : RouterStep exampleEnv.ipVersion ok exampleRouted₁ exampleRouted₂ := by
    have hn : IsUuid (exampleId '0') := isUuid_exampleId (by decide)
    refine .addInterface Prog.spared_nil rfl hn rfl (by decide +kernel) ⟨?_, ?_⟩
      (by decide +kernel) nofun
    · have hname : ovnName (exampleId '0') = 'n' :: (ovnName (exampleId '0')).tail := rfl
      refine ⟨'n', (ovnName (exampleId '0')).tail, rfl, ?_⟩
      rw [← hname]
      rfl
    · exact ⟨_, _, rfl, by decide⟩
  have hpool : RouterStep exampleEnv.ipVersion ok exampleRouted₂ exampleRouted₃ :=
    .poolCreate Prog.spared_nil (by decide +kernel)
  have hmember : RouterStep exampleEnv.ipVersion ok exampleRouted₃ exampleRouted₄ :=
    .memberCreate Prog.spared_nil rfl ⟨rfl, rfl, rfl, rfl⟩ (reaches_example (by decide +kernel))
  exact (((Relation.ReflTransGen.refl.tail hcreate).tail hinterface).tail hpool).tail hmember

theorem routersReach_of_run_example : RoutersReach exampleEnv.ipVersion exampleRouted₄ := by
  have hdistinct : exampleRoutedNb.DistinctSwitches := by
    unfold Nb.DistinctSwitches
    decide
  exact routersReach_of_run hdistinct routed_example rfl (run_example _)

/-- The only member of a network is removed that the router of the load balancer connects:
the switch is unlinked from the row. -/
theorem not_routersReach_of_lastMember : exampleRoutedNb.loadBalancers = [] ∧
    Relation.ReflTransGen (RouterStep exampleEnv.ipVersion fun _ _ _ => True)
      exampleRoutedNb exampleRouted₅ ∧ ¬RoutersReach exampleEnv.ipVersion exampleRouted₅ := by
  refine ⟨rfl, (run_example _).tail ?_, fun h => ?_⟩
  · exact .memberDelete Prog.spared_nil rfl ⟨rfl, rfl, rfl, rfl⟩
      (reaches_example (by decide +kernel)) fun _ _ _ _ _ _ _ _ => trivial
  · have hgone : ∃ row ∈ exampleRouted₅.loadBalancers, ∃ lr ∈ exampleRouted₅.routers,
        lr.name ∈ lrRefs row.externalIds ∧ exampleBackendPort ∈ lr.ports ∧
        row.externalIds.get? lbExtIdsVipKey = some "10.0.0.2".toList ∧
        ∃ ls ∈ exampleRouted₅.switches, row.uuid ∉ ls.loadBalancer ∧
          exampleRouted₅.switch? (.name (ovnName (exampleId '0'))) = some ls := by
      decide +kernel
    obtain ⟨row, hrow, lr, hlr, hname, hport, hvip, ls, -, hno, hls⟩ := hgone
    have hserves : exampleBackendPort.Serves exampleEnv.ipVersion .v4
      (ovnName (exampleId '0')) := by
      refine ⟨rfl, ⟨_, _, rfl, by decide⟩, 'n', (ovnName (exampleId '0')).tail, rfl, ?_⟩
      have hname : ovnName (exampleId '0') = 'n' :: (ovnName (exampleId '0')).tail := rfl
      rw [← hname]
      rfl
    exact hno ((h row hrow lr hlr hname).2 .v4 _ ls ⟨_, hvip, by decide⟩
      ⟨exampleBackendPort, hport, hserves⟩ hls)

end

end Example

end OvnOctavia

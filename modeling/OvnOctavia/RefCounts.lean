import OvnOctavia.Library.Flaky
import OvnOctavia.Kept
import OvnOctavia.ProtocolRows
import OvnOctavia.SwitchCounts

/-!
The association counts of a load balancer with a single row. A network is counted
once for every member on it, and the network of the VIP once more for each of its
VIPs; the switches of the counted networks are linked to the row. Which commits
fail on the way does not matter, as long as an association is not given up.
-/

namespace OvnOctavia

section Neutral
variable {env : Env} {u : Nat}

/-- The command counts and unlinks nothing, and leaves the members of the row `u` alone. -/
def Command.Neutral (u : Nat) : Command → Prop
  | .lbUpdate v op => v = u ∧ ∃ k ∈ [lbExtIdsLrRefKey, ovnMemberStatusKey],
      (∃ t, op = .setExternalIds (.single k t)) ∨ op = .removeExternalId k
  | .lsLbAdd .. | .lrLbAdd .. | .portDelete _ => True
  | _ => False

theorem neutral_addLbToLrAssociation {nb : Nb} {lb : LoadBalancer} {lr : LogicalRouter}
    {lrRef : Option Str} {isSync : Bool} {cs : List Command}
    (h : addLbToLrAssociation env nb lb lr lrRef isSync = .ok cs) :
    ∀ c ∈ cs, c.Neutral lb.uuid := by
  unfold addLbToLrAssociation at h
  cases hv : vipVersion env lb with
  | error e =>
      rw [hv] at h
      cases h
  | ok v =>
      rw [hv] at h
      cases hn : findLsForLr env lr v with
      | error e =>
          simp only [Bind.bind, Except.bind, hn] at h
          cases h
      | ok nets =>
          simp only [Bind.bind, Except.bind, hn] at h
          cases h
          intro c hc
          rcases List.mem_append.mp hc with hc | hc
          · rcases List.mem_append.mp hc with hc | hc
            · split at hc
              · cases hc
              · rw [List.mem_singleton.mp hc]
                trivial
            · obtain ⟨net, -, rfl⟩ := List.mem_map.mp hc
              trivial
          · split at hc
            · cases hc
            · rw [List.mem_singleton.mp hc]
              exact ⟨rfl, lbExtIdsLrRefKey, by simp, .inl ⟨_, rfl⟩⟩

theorem neutral_getLbToLrAssociationCommands {nb : Nb} {lb : LoadBalancer} {lr : LogicalRouter}
    {isSync : Bool} {cs : List Command}
    (h : getLbToLrAssociationCommands env nb lb lr false isSync = .ok cs) :
    ∀ c ∈ cs, c.Neutral lb.uuid := by
  rw [← lb.uuid_live nb]
  exact neutral_addLbToLrAssociation h

theorem neutral_associateLr (env : Env) (lb : LoadBalancer) (lr : LogicalRouter) :
    (associateLr env lb lr).Uses (Command.Neutral lb.uuid) := by
  refine .tryCatch (.retry (uses_computed fun _ _ => neutral_getLbToLrAssociationCommands) 2)
    fun e => ?_
  split
  · refine .bind .get fun nb => ?_
    cases hf : getLbToLrAssociationCommands env nb lb lr false false with
    | error e => exact .throw e
    | ok cs =>
        refine .each fun c hc => .tryCatch (.transaction ?_) fun e => ?_
        · simpa using neutral_getLbToLrAssociationCommands hf c hc
        · split
          · exact .pure ()
          · exact .throw e
  · exact .throw e

theorem neutral_updateExternalIdsMemberStatus (lb : LoadBalancer) (member : Str)
    (status : Option Str) :
    (updateExternalIdsMemberStatus (some lb) member status).Uses (Command.Neutral lb.uuid) := by
  refine .bind (uses_readLb lb) fun row => .bind (.ofExcept _) fun statuses =>
    .execute fun c hc => ?_
  rw [List.mem_singleton.mp hc, storeMemberStatuses]
  split
  · exact ⟨rfl, ovnMemberStatusKey, by simp, .inr rfl⟩
  · exact ⟨rfl, ovnMemberStatusKey, by simp, .inl ⟨_, rfl⟩⟩

theorem loadLsRefs_congr {e e' : Dict Str Str}
    (h : e'.get? lbExtIdsLsRefsKey = e.get? lbExtIdsLsRefsKey) : loadLsRefs e' = loadLsRefs e := by
  rw [loadLsRefs, loadLsRefs, h]

end Neutral

/-- What a network counts for: its members, and each VIP on the network of the VIP. -/
def expected (net : Str → Str) (vipNet : Str) (extra : Nat) (e : Dict Str Str) (n : Str) : Nat :=
  memberCount net n e + if n = vipNet then 1 + extra else 0

/-- The only row of the load balancer counts its members and its VIPs, `extra` of them
additional ones. -/
structure Counted (net : Str → Str) (vipNet : Str) (extra : Nat) (lbId : Str) (nb : Nb) :
    Prop where
  wellFormed : nb.WellFormed
  distinct : nb.DistinctSwitches
  single : ∀ row ∈ nb.lbsNamed lbId, nb.lbsNamed lbId = [row]
  unmonitored : ∀ row ∈ nb.lbsNamed lbId, row.healthCheck = []
  refs : ∀ row ∈ nb.lbsNamed lbId, Refs row (expected net vipNet extra row.externalIds) nb

namespace Counted
variable {net : Str → Str} {vipNet : Str} {extra : Nat} {lbId : Str} {nb nb' : Nb}
  {row row' : LoadBalancer} {u : Nat}

theorem lb? (h : Counted net vipNet extra lbId nb) (hrow : row ∈ nb.lbsNamed lbId) :
    nb.lb? row.uuid = some row := h.wellFormed.lb?_of_mem (Nb.mem_lbsNamed.mp hrow).1

/-- The only row of the load balancer, without health checks. -/
structure Sole (lbId : Str) (row : LoadBalancer) (nb : Nb) : Prop where
  wellFormed : nb.WellFormed
  distinct : nb.DistinctSwitches
  named : nb.lbsNamed lbId = [row]
  unmonitored : row.healthCheck = []

theorem Sole.mem (h : Sole lbId row nb) : row ∈ nb.lbsNamed lbId :=
  h.named ▸ List.mem_singleton_self row

theorem Sole.lb? (h : Sole lbId row nb) : nb.lb? row.uuid = some row :=
  h.wellFormed.lb?_of_mem (Nb.mem_lbsNamed.mp h.mem).1

theorem sole (h : Counted net vipNet extra lbId nb) (hrow : row ∈ nb.lbsNamed lbId) :
    Sole lbId row nb :=
  ⟨h.wellFormed, h.distinct, h.single row hrow, h.unmonitored row hrow⟩

/-- The row is replaced by another one whose counts are right. -/
theorem of_put (h : Sole lbId row nb) (row' : LoadBalancer) (nb' : Nb)
    (hu : row'.uuid = row.uuid) (hn : row'.name = row.name)
    (hm : row'.healthCheck = []) (hrows : nb'.loadBalancers = (nb.putLb row').loadBalancers)
    (hnext : nb'.nextUuid = nb.nextUuid) (ht : nb.SameTopology nb')
    (hr : Refs row' (expected net vipNet extra row'.externalIds) nb') :
    Counted net vipNet extra lbId nb' ∧ nb'.lbsNamed lbId = [row'] := by
  have hput := h.wellFormed.putLb row'
  have hnamed : nb'.lbsNamed lbId = [row'] := by
    have hl : nb'.lbsNamed lbId = (nb.putLb row').lbsNamed lbId := by
      rw [Nb.lbsNamed, hrows]
      rfl
    rw [hl, Nb.lbsNamed_putLb h.wellFormed row' (hu ▸ h.lb?) hn, h.named,
      List.map_singleton, if_pos hu.symm]
  refine ⟨⟨⟨?_, ?_⟩, ht.distinctSwitches h.distinct, ?_, ?_, ?_⟩, hnamed⟩
  · rw [hrows]
    exact hput.nodup
  · rw [hrows, hnext]
    exact hput.lt_next
  · intro x hx
    rw [hnamed] at hx ⊢
    rw [List.mem_singleton.mp hx]
  · intro x hx
    rw [hnamed] at hx
    rw [List.mem_singleton.mp hx]
    exact hm
  · intro x hx
    rw [hnamed] at hx
    rw [List.mem_singleton.mp hx]
    exact hr

/-- A row that keeps its counts, its members and its links. -/
theorem refs_of_same {total : Str → Nat} (hr : Refs row total nb) (hu : row'.uuid = row.uuid)
    (hc : loadLsRefs row'.externalIds = loadLsRefs row.externalIds)
    (hl : ∀ x, nb.LinkedTo row.uuid x → nb'.LinkedTo row.uuid x) : Refs row' total nb' where
  counts := fun n hn => by rw [hc]; exact hr.counts n hn
  links := fun n hn hne => hu ▸ hl _ (hr.links n hn hne)

/-- Neutral commands keep the counts right. -/
theorem neutral (h : Counted net vipNet extra lbId nb) (hrow : row ∈ nb.lbsNamed lbId)
    {c : Command} (hc : c.Neutral row.uuid) (ha : Nb.apply c nb = .ok nb') :
    Counted net vipNet extra lbId nb' ∧ ∃ row' ∈ nb'.lbsNamed lbId, row'.uuid = row.uuid := by
  have hself : nb.putLb row = nb := Nb.putLb_self h.wellFormed (h.lb? hrow)
  have hkeep : nb'.loadBalancers = nb.loadBalancers → nb'.nextUuid = nb.nextUuid →
      (∀ x, nb.LinkedTo row.uuid x → nb'.LinkedTo row.uuid x) →
      Counted net vipNet extra lbId nb' ∧ ∃ row' ∈ nb'.lbsNamed lbId, row'.uuid = row.uuid := by
    intro hrows hnext hl
    obtain ⟨hcounted, hnamed⟩ := of_put (h.sole hrow) row nb' rfl rfl (h.unmonitored row hrow)
      (by rw [hself, hrows]) hnext (Nb.sameTopology_apply ha)
      (refs_of_same (h.refs row hrow) rfl rfl hl)
    exact ⟨hcounted, row, hnamed ▸ List.mem_singleton_self row, rfl⟩
  cases c with
  | lbUpdate v op =>
      obtain ⟨rfl, k, hk, hop⟩ := hc
      rw [Nb.apply_lbUpdate (h.lb? hrow), Except.ok.injEq,
        Nb.updateLb_eq_putLb h.wellFormed (h.lb? hrow) (LbOp.uuid_apply row op)] at ha
      subst ha
      have hother : Str.startsWith lbExtIdsPoolPrefix k = false ∧ k ≠ lbExtIdsLsRefsKey := by
        simp only [List.mem_cons, List.not_mem_nil, or_false] at hk
        obtain rfl | rfl := hk
        · decide
        · decide
      have hcount : (LbOp.apply row op).healthCheck = row.healthCheck ∧
          loadLsRefs (LbOp.apply row op).externalIds = loadLsRefs row.externalIds ∧
          ∀ n, memberCount net n (LbOp.apply row op).externalIds =
            memberCount net n row.externalIds := by
        rcases hop with ⟨t, rfl⟩ | rfl
        · simp only [LbOp.apply, Dict.update_single]
          exact ⟨trivial, loadLsRefs_congr (Dict.get?_set_of_ne _ _ hother.2.symm),
            fun n => memberCount_set_of_other hother.1 t⟩
        · exact ⟨rfl, loadLsRefs_congr (Dict.get?_erase_of_ne _ hother.2.symm),
            fun n => memberCount_erase_of_other hother.1⟩
      obtain ⟨hhc, hrefs, hmembers⟩ := hcount
      obtain ⟨hcounted, hnamed⟩ :=
        of_put (h.sole hrow) (LbOp.apply row op) _ (LbOp.uuid_apply row op)
        (LbOp.name_apply row op)
        (hhc.trans (h.unmonitored row hrow)) rfl rfl ⟨rfl, rfl⟩
        (refs_of_same ((h.refs row hrow).congr fun n _ => by rw [expected, expected, hmembers])
          (LbOp.uuid_apply row op) hrefs fun x hx => hx.of_switches rfl)
      exact ⟨hcounted, _, hnamed ▸ List.mem_singleton_self _, LbOp.uuid_apply row op⟩
  | lsLbAdd ref v =>
      simp only [Nb.apply] at ha
      split at ha
      · cases ha
        exact hkeep rfl rfl fun x hx => hx.link _ _
      · cases ha
  | lrLbAdd r v =>
      simp only [Nb.apply] at ha
      split at ha
      · cases ha
        exact hkeep rfl rfl fun x hx => hx.of_switches rfl
      · cases ha
  | portDelete id =>
      cases ha
      exact hkeep rfl rfl fun x hx => hx.of_switches rfl
  | _ => exact hc.elim

end Counted

section Handlers
variable {net : Str → Str} {vipNet : Str} {extra : Nat} {lbId : Str} {env : Env} {nb : Nb}
  {row : LoadBalancer}

/-- Whichever commits fail, `p` ends with `Q`; a failed commit raises `RowNotFound`. -/
abbrev Nb.Ends {α : Type} (nb : Nb) (p : Nbctl α) (Q : Except Exc α → Nb → Prop) : Prop :=
  Prog.Ends Nb.apply Exc.rowNotFound p Q nb

theorem Counted.ends_neutral {α : Type} {p : Nbctl α} {u : Nat} {Q : Except Exc α → Nb → Prop}
    (h : Counted net vipNet extra lbId nb) (hrow : ∃ row ∈ nb.lbsNamed lbId, row.uuid = u)
    (hp : p.Uses (Command.Neutral u))
    (hQ : ∀ r s, Counted net vipNet extra lbId s → (∃ row ∈ s.lbsNamed lbId, row.uuid = u) →
      Q r s) : nb.Ends p Q := by
  refine Prog.Ends.of_uses (I := fun s => Counted net vipNet extra lbId s ∧
    ∃ row ∈ s.lbsNamed lbId, row.uuid = u) hp ?_ ⟨h, hrow⟩ fun r s hs => hQ r s hs.1 hs.2
  rintro c s s' hc ⟨hs, r, hr, hu⟩ ha
  subst hu
  exact hs.neutral hr hc ha

theorem ends_findOvnLbByPoolId {β : Type} {poolId : Str} {f : Str × Option LoadBalancer → Nbctl β}
    {Q : Except Exc β → Nb → Prop} (h : nb.Ends (f (nb.poolRow poolId)) Q) :
    nb.Ends (findOvnLbByPoolId poolId >>= f) Q := by
  refine .bind (.bind (.read (.pure ?_)))
  have hrow := run_findOvnLbByPoolId nb poolId
  simp only [Nb.poolRow] at h
  dsimp only
  split
  · next lb hlb =>
      refine .pure ?_
      rwa [hlb] at h
  · next hlb =>
      refine .bind (.read (.pure (.pure ?_)))
      rwa [hlb] at h

theorem ends_readLb {β : Type} {lb : LoadBalancer} {f : LoadBalancer → Nbctl β}
    {Q : Except Exc β → Nb → Prop} (h : nb.Ends (f (lb.live nb)) Q) :
    nb.Ends (readLb lb >>= f) Q := .bind (.read (.pure h))

/-- Commands computed from one view and committed at once. -/
theorem commitsOnce_computed {f : Nb → Except Exc (List Command)} {cs : List Command} {nb' : Nb}
    (hf : f nb = .ok cs) (hne : cs ≠ []) (ht : Prog.transact Nb.apply cs nb = .ok nb') :
    Prog.CommitsOnce Nb.apply Exc.rowNotFound (do
      let nb ← Prog.get
      let commands ← Prog.ofExcept (f nb)
      executeCommands commands : Nbctl Unit) nb (.ok ()) nb' := by
  intro marks
  obtain ⟨c, cs, rfl⟩ := List.exists_cons_of_ne_nil hne
  have hget : (Prog.get : Nbctl Nb).runFlaky Nb.apply .rowNotFound marks nb =
      ((.ok nb, nb), marks) := rfl
  rw [Prog.runFlaky_bind, hget]
  dsimp only
  rw [Prog.runFlaky_bind, Prog.runFlaky_ofExcept, hf]
  simp only [executeCommands, Prog.transaction, Prog.runFlaky, ht]

/-- Neutron knows the subnet; `net` tells its network. -/
structure Env.Resolves (env : Env) (net : Str → Str) (subnetId : Str) : Prop where
  client : env.neutronClient = .ok ()
  subnet : ∃ subnet, env.getSubnet subnetId = .ok subnet ∧ subnet.networkId = net subnetId
  network : IsUuid (net subnetId)
  nonempty : subnetId ≠ []

theorem Env.Resolves.lsNameOf {subnetId : Str} (h : env.Resolves net subnetId) (associate : Bool) :
    lsNameOf env { subnetId := some subnetId, associate } =
      .ok (some (some (ovnName (net subnetId)))) := by
  obtain ⟨subnet, hs, hn⟩ := h.subnet
  obtain ⟨c, t, rfl⟩ := List.exists_cons_of_ne_nil h.nonempty
  simp only [OvnOctavia.lsNameOf, h.client, hs, hn]

section Association
variable {total : Str → Nat} {n : Str} {ls : LogicalSwitch} {a : LsAssociation}
  {Q : Except Exc Unit → Nb → Prop}

/-- An association that is tried three times goes through. -/
theorem ends_updateLbToLsAssociation {lb : LoadBalancer} {total' : Str → Nat}
    {refs : Dict Str Nat} {cs : List Command} {nb₁ : Nb} (hrow : nb.lb? lb.uuid = some row)
    (hname : lsNameOf env a = .ok (some (some (ovnName n))))
    (hls : nb.switch? (.name (ovnName n)) = some ls)
    (hcs : lsCommands row a (some (ovnName n)) (some ls) = .ok cs)
    (hc : Counts row nb cs total' refs nb₁) (hQ : Q (.ok ()) (nb₁.putLb (row.counting refs))) :
    nb.Ends (updateLbToLsAssociation env lb a) Q := by
  refine Prog.Ends.retry rfl (commitsOnce_computed ?_ hc.ne_nil hc.done) hQ
  simp only [getLbToLsAssociationCommands, hname, Bind.bind, Except.bind, Option.bind_some, hls,
    LoadBalancer.live, hrow, Option.getD_some, hcs]

end Association

section Members
variable {member : MemberInfo} {d : MemberData} {poolId value : Str} {up : Bool}

/-- A member as it is counted on its network. -/
theorem onNetwork_text (hd : d.WellFormed env) (n : Str) :
    onNetwork net n d.text = decide (net d.subnet = n) := by
  rw [onNetwork, hd.extract]

theorem countP_add (items : List Str) (hd : d.WellFormed env) (n : Str) :
    (items ++ [d.text]).countP (onNetwork net n) =
      items.countP (onNetwork net n) + if n = net d.subnet then 1 else 0 := by
  rw [List.countP_append, List.countP_singleton, onNetwork_text hd]
  by_cases h : n = net d.subnet
  · simp [h]
  · have h' : net d.subnet ≠ n := Ne.symm h
    simp [h, h']

theorem countP_remove {items : List Str} (hd : d.WellFormed env) (hm : d.text ∈ items) (n : Str) :
    (items.erase d.text).countP (onNetwork net n) + (if n = net d.subnet then 1 else 0) =
      items.countP (onNetwork net n) := by
  have hperm := (List.perm_cons_erase hm).countP_eq (onNetwork net n)
  rw [hperm, List.countP_cons, onNetwork_text hd]
  by_cases h : n = net d.subnet
  · simp [h]
  · have h' : net d.subnet ≠ n := Ne.symm h
    simp [h, h']

theorem memberCount_add {e : Dict Str Str} (hv : e.get? (getPoolKey poolId up) = some value)
    (hd : d.WellFormed env) (n : Str) :
    memberCount net n (e.set (getPoolKey poolId up)
        (Str.join ',' (poolItems value ++ [d.text]))) =
      memberCount net n e + if n = net d.subnet then 1 else 0 := by
  have hsum := Dict.sum_set_of_get? (countIn net n)
    (Str.join ',' (poolItems value ++ [d.text])) hv
  have hcomma : ∀ s ∈ poolItems value ++ [d.text], ',' ∉ s := by
    intro s hs
    rcases List.mem_append.mp hs with hs | hs
    · exact comma_notMem_poolItems hs
    · rw [List.mem_singleton.mp hs]
      exact hd.comma
  rw [countIn_poolKey, countIn_poolKey, countP_poolItems_join hcomma, countP_add _ hd] at hsum
  simp only [memberCount]
  omega

theorem memberCount_remove {e : Dict Str Str} (hv : e.get? (getPoolKey poolId up) = some value)
    (hd : d.WellFormed env) (hm : d.text ∈ value.splitOn ',') (n : Str) :
    memberCount net n (e.set (getPoolKey poolId up)
        (Str.join ',' ((value.splitOn ',').erase d.text))) +
      (if n = net d.subnet then 1 else 0) = memberCount net n e := by
  have hsum := Dict.sum_set_of_get? (countIn net n)
    (Str.join ',' ((value.splitOn ',').erase d.text)) hv
  have hcomma : ∀ s ∈ (value.splitOn ',').erase d.text, ',' ∉ s :=
    fun s hs => Str.notMem_of_mem_splitOn (List.mem_of_mem_erase hs)
  have hitems : poolItems value = value.splitOn ',' := by
    rw [poolItems, if_neg]
    rintro rfl
    rw [List.splitOn_nil, List.mem_singleton] at hm
    exact d.text_ne_nil hm
  have hremove : _ + _ = List.countP (onNetwork net n) _ := countP_remove hd hm n
  rw [countIn_poolKey, countIn_poolKey, countP_poolItems_join hcomma, hitems] at hsum
  simp only [memberCount]
  omega

theorem ends_refreshLbVips {β : Type}
    {externalIds : Dict Str Str} {f : List Command → Nbctl β} {Q : Except Exc β → Nb → Prop}
    (hfail : ∀ e, Q (.error e) nb)
    (hok : ∀ vips, nb.Ends (f [.lbUpdate row.uuid .clearVips, .lbUpdate row.uuid (.setVips vips)])
      Q) :
    nb.Ends (refreshLbVips env row externalIds false >>= f) Q := by
  refine .bind (ends_readLb (.bind (.ofExcept ?_)))
  cases frameVipIps env (row.live nb).externalIds externalIds with
  | error e => exact hfail e
  | ok vips => exact .pure (hok vips)

/-- A transaction of updates of one row, which may fail. -/
theorem ends_executeUpdates (hw : nb.WellFormed) (hrow : nb.lb? row.uuid = some row) (op : LbOp)
    (ops : List LbOp) {Q : Except Exc Unit → Nb → Prop} (hfail : Q (.error .rowNotFound) nb)
    (hok : Q (.ok ()) (nb.putLb ((op :: ops).foldl LbOp.apply row))) :
    nb.Ends (executeCommands ((op :: ops).map (.lbUpdate row.uuid))) Q := by
  refine Prog.Ends.transaction hfail ?_
  rw [← List.map_cons, Nb.transact_row hw hrow (op :: ops) rfl]
  exact hok

theorem ends_addMemberOn (hw : nb.WellFormed) (hrow : nb.lb? row.uuid = some row)
    {poolKey text : Str} {items : List Str} {Q : Except Exc Unit → Nb → Prop}
    (hfail : ∀ e, Q (.error e) nb)
    (hok : ∀ vips, Q (.ok ()) (nb.putLb { row with
      externalIds := row.externalIds.set poolKey (Str.join ',' (items ++ [text])), vips })) :
    nb.Ends (addMemberOn env member row poolKey text row.externalIds items) Q := by
  unfold addMemberOn
  dsimp only
  split
  · refine ends_refreshLbVips hfail fun vips => ?_
    refine ends_executeUpdates hw hrow
      (.setExternalIds (.single poolKey (Str.join ',' (items ++ [text]))))
      [.clearVips, .setVips vips] (hfail _) ?_
    simpa [LbOp.apply] using hok vips
  · refine .bind (.pure ?_)
    refine ends_executeUpdates hw hrow
      (.setExternalIds (.single poolKey (Str.join ',' (items ++ [text])))) [] (hfail _) ?_
    simpa [LbOp.apply] using hok row.vips

theorem ends_removeMemberOn (hw : nb.WellFormed) (hrow : nb.lb? row.uuid = some row)
    {poolKey : Str} {items : List Str} {Q : Except Exc Unit → Nb → Prop}
    (hfail : ∀ e, Q (.error e) nb)
    (hok : ∀ vips, Q (.ok ()) (nb.putLb { row with
      externalIds := row.externalIds.set poolKey (Str.join ',' items), vips })) :
    nb.Ends (removeMemberOn env row poolKey row.externalIds items) Q := by
  refine ends_refreshLbVips hfail fun vips => ?_
  refine ends_executeUpdates hw hrow (.setExternalIds (.single poolKey (Str.join ',' items)))
    [.clearVips, .setVips vips] (hfail _) ?_
  simpa [LbOp.apply] using hok vips

/-- What every handler of a member request keeps on the row of its pool. -/
def CountedAt (net : Str → Str) (vipNet : Str) (extra : Nat) (lbId : Str) (u : Nat) (nb : Nb) :
    Prop :=
  Counted net vipNet extra lbId nb ∧ ∃ row ∈ nb.lbsNamed lbId, row.uuid = u

theorem poolKey_ne_lsRefs (id : Str) (up : Bool) : lbExtIdsLsRefsKey ≠ getPoolKey id up :=
  fun h => poolKey_notMem_base id up (h ▸ by decide)

/-- A network is resolved, and its switch exists. -/
structure Nb.Reaches (nb : Nb) (env : Env) (net : Str → Str) (subnetId : Str) : Prop where
  resolves : env.Resolves net subnetId
  switch : (nb.switch? (.name (ovnName (net subnetId)))).isSome

theorem Nb.Reaches.of_topology {nb' : Nb} {subnetId : Str} (h : nb.Reaches env net subnetId)
    (ht : nb.SameTopology nb') : nb'.Reaches env net subnetId := by
  exact ⟨h.resolves, by rw [ht.isSome_switch?, h.switch]⟩

/-- The counts of a changed row are right once its networks are counted. -/
theorem Counted.of_counts (h : Counted.Sole lbId row nb) {new : LoadBalancer}
    (hu : new.uuid = row.uuid) (hn : new.name = row.name)
    (hm : new.healthCheck = []) {cs : List Command} {total : Str → Nat} {refs : Dict Str Nat}
    {nb₁ : Nb} (hc : Counts new (nb.putLb new) cs total refs nb₁)
    (htotal : ∀ n, expected net vipNet extra new.externalIds n = total n) :
    CountedAt net vipNet extra lbId row.uuid (nb₁.putLb (new.counting refs)) := by
  have hrows : (nb₁.putLb (new.counting refs)).loadBalancers =
      (nb.putLb (new.counting refs)).loadBalancers := by
    have hput : (nb.putLb new).putLb (new.counting refs) = nb.putLb (new.counting refs) :=
      Nb.putLb_putLb rfl
    rw [← hput, Nb.putLb, Nb.loadBalancers_updateLb, hc.rows]
    rfl
  have htopology : nb.SameTopology (nb₁.putLb (new.counting refs)) :=
    ⟨hc.topology.switches, hc.topology.routers⟩
  have hmembers : ∀ n, memberCount net n (new.counting refs).externalIds =
      memberCount net n new.externalIds :=
    fun n => memberCount_set_of_other (by decide) _
  obtain ⟨hcounted, hnamed⟩ := Counted.of_put h (new.counting refs)
    (nb₁.putLb (new.counting refs)) hu hn hm hrows hc.next htopology
    (hc.refs.congr fun n _ => by rw [← htotal n, expected, expected, hmembers])
  exact ⟨hcounted, new.counting refs, hnamed ▸ List.mem_singleton_self _, hu⟩

/-- A row whose members change has its counts still to be adapted. -/
theorem Counted.pending (h : Counted net vipNet extra lbId nb) (hrow : row ∈ nb.lbsNamed lbId)
    (vips : Dict Str Str) (poolId : Str) (up : Bool) (t : Str) :
    Refs { row with externalIds := row.externalIds.set (getPoolKey poolId up) t, vips }
      (expected net vipNet extra row.externalIds)
      (nb.putLb { row with externalIds := row.externalIds.set (getPoolKey poolId up) t, vips }) :=
  refs_of_same (h.refs row hrow) rfl
    (loadLsRefs_congr (Dict.get?_set_of_ne _ _ (poolKey_ne_lsRefs poolId up)))
    fun _ hx => hx.of_switches rfl

/-- Adding a member counts its network, unless the member is there already. -/
theorem Counted.addMember (h : Counted net vipNet extra lbId nb) (hrow : row ∈ nb.lbsNamed lbId)
    (hd : member.Describes d) (hwf : d.WellFormed env) (hreach : nb.Reaches env net d.subnet) :
    nb.Ends (OvnOctavia.addMember env member (some row) (getPoolKey poolId up))
      (fun _ s => CountedAt net vipNet extra lbId row.uuid s) := by
  have hstay : CountedAt net vipNet extra lbId row.uuid nb := ⟨h, row, hrow, rfl⟩
  have hget := h.lb? hrow
  refine ends_readLb ?_
  rw [live_of_lb? hget]
  cases hv : row.externalIds.get? (getPoolKey poolId up) with
  | none => exact .throw hstay
  | some value =>
      refine .ofExcept_bind hd.text ?_
      split
      · exact .pure hstay
      · refine .bind (ends_addMemberOn h.wellFormed hget (fun _ => hstay) fun vips => ?_)
        have hpending := h.pending hrow vips poolId up (Str.join ',' (poolItems value ++ [d.text]))
        generalize hnew : ({ row with
          externalIds := row.externalIds.set (getPoolKey poolId up)
            (Str.join ',' (poolItems value ++ [d.text]))
          vips } : LoadBalancer) = new at hpending ⊢
        have hu : new.uuid = row.uuid := hnew ▸ rfl
        have hget' : (nb.putLb new).lb? new.uuid = some new := Nb.lb?_putLb new (hu ▸ hget)
        have hreach' : (nb.putLb new).Reaches env net d.subnet := hreach.of_topology ⟨rfl, rfl⟩
        obtain ⟨ls, hls⟩ := Option.isSome_iff_exists.mp hreach'.switch
        obtain ⟨cs, refs, nb₁, hcs, hcounts, -⟩ := hpending.join (h.wellFormed.putLb new)
          (Nb.SameTopology.distinctSwitches ⟨rfl, rfl⟩ h.distinct) hget' hreach.resolves.network hls
          (rfl : ({ subnetId := some d.subnet } : LsAssociation).associate = true) rfl rfl
        have hdone : CountedAt net vipNet extra lbId row.uuid (nb₁.putLb (new.counting refs)) := by
          refine Counted.of_counts (h.sole hrow) hu (hnew ▸ rfl) (hnew ▸ h.unmonitored row hrow)
            hcounts fun n => ?_
          have hadd : memberCount net n new.externalIds =
              memberCount net n row.externalIds + if n = net d.subnet then 1 else 0 :=
            hnew ▸ memberCount_add hv hwf n
          have hnone : LsAssociation.additional { subnetId := some d.subnet } new = 0 := rfl
          rw [expected, hadd, hnone]
          by_cases he : n = net d.subnet
          · rw [if_pos he, if_pos he, ← he, Nat.add_right_comm]
            change expected net vipNet extra row.externalIds n + 1 = _
            split <;> omega
          · rw [if_neg he, if_neg he]
            rfl
        have hsubnet : member.subnetId = some d.subnet := hd.2.2.2
        refine .bind ?_
        unfold associateMember
        rw [hsubnet]
        refine .bind (ends_updateLbToLsAssociation (hu ▸ hget')
          (hreach.resolves.lsNameOf true) hls hcs
          hcounts ?_)
        refine hdone.1.ends_neutral hdone.2 (.bind (uses_findRelatedLr env _) fun lr => ?_)
          fun r s hs hrow' => ?_
        · split
          · exact .pure ()
          · exact neutral_associateLr env row _
        · cases r with
          | ok a => exact .pure ⟨hs, hrow'⟩
          | error e => exact ⟨hs, hrow'⟩

/-- Removing a member that is there counts its network once less. -/
theorem Counted.removeMember (h : Counted net vipNet extra lbId nb)
    (hrow : row ∈ nb.lbsNamed lbId) (hd : member.Describes d) (hwf : d.WellFormed env)
    (hreach : nb.Reaches env net d.subnet) :
    nb.Ends (OvnOctavia.removeMember env member (some row) (getPoolKey poolId up))
      (fun _ s => CountedAt net vipNet extra lbId row.uuid s) := by
  have hstay : CountedAt net vipNet extra lbId row.uuid nb := ⟨h, row, hrow, rfl⟩
  have hget := h.lb? hrow
  refine ends_readLb ?_
  rw [live_of_lb? hget]
  cases hv : row.externalIds.get? (getPoolKey poolId up) with
  | none => exact .throw hstay
  | some value =>
      refine .ofExcept_bind hd.text ?_
      split
      · next hm =>
          refine ends_readLb ?_
          rw [live_of_lb? hget]
          simp only [h.unmonitored row hrow, ne_eq, not_true_eq_false, if_false]
          refine .bind (ends_removeMemberOn h.wellFormed hget (fun _ => hstay) fun vips => ?_)
          have hpending := h.pending hrow vips poolId up
            (Str.join ',' ((value.splitOn ',').erase d.text))
          have hremove : ∀ n, _ + _ = memberCount net n row.externalIds :=
            memberCount_remove hv hwf hm
          generalize hnew : ({ row with
            externalIds := row.externalIds.set (getPoolKey poolId up)
              (Str.join ',' ((value.splitOn ',').erase d.text))
            vips } : LoadBalancer) = new at hpending ⊢
          have hu : new.uuid = row.uuid := hnew ▸ rfl
          have hget' : (nb.putLb new).lb? new.uuid = some new := Nb.lb?_putLb new (hu ▸ hget)
          have hreach' : (nb.putLb new).Reaches env net d.subnet := hreach.of_topology ⟨rfl, rfl⟩
          obtain ⟨ls, hls⟩ := Option.isSome_iff_exists.mp hreach'.switch
          have hcount : ∀ n, memberCount net n new.externalIds +
              (if n = net d.subnet then 1 else 0) = memberCount net n row.externalIds :=
            fun n => hnew ▸ hremove n
          have hpos : expected net vipNet extra row.externalIds (net d.subnet) ≠ 0 := by
            have := hcount (net d.subnet)
            rw [if_pos rfl] at this
            rw [expected]
            omega
          obtain ⟨cs, refs, nb₁, hcs, hcounts, -⟩ := hpending.leave (h.wellFormed.putLb new)
            (Nb.SameTopology.distinctSwitches ⟨rfl, rfl⟩ h.distinct) hget'
              hreach.resolves.network hls
            (rfl : ({ subnetId := some d.subnet, associate := false } : LsAssociation).associate =
              false) rfl rfl hpos
          have hdone : CountedAt net vipNet extra lbId row.uuid
            (nb₁.putLb (new.counting refs)) := by
            refine Counted.of_counts (h.sole hrow) hu (hnew ▸ rfl) (hnew ▸ h.unmonitored row hrow)
              hcounts fun n => ?_
            have hn := hcount n
            by_cases he : n = net d.subnet
            · rw [if_pos he] at hn
              rw [if_pos he, ← he, expected, expected]
              omega
            · rw [if_neg he] at hn
              rw [if_neg he, expected, expected]
              omega
          have hsubnet : member.subnetId = some d.subnet := hd.2.2.2
          rw [hsubnet]
          exact ends_updateLbToLsAssociation (hu ▸ hget') (hreach.resolves.lsNameOf false) hls hcs
            hcounts hdone
      · exact .pure hstay

/-- The row of the pool, if the pool has one, is a row of the load balancer. -/
def Nb.PoolOf (nb : Nb) (lbId poolId : Str) : Prop :=
  ∀ key row, nb.poolRow poolId = (key, some row) → row.name = lbId

theorem Counted.memberCreate (h : Counted net vipNet extra lbId nb)
    (hp : member.poolId = some poolId) (hpool : nb.PoolOf lbId poolId) (hd : member.Describes d)
    (hwf : d.WellFormed env) (hreach : nb.Reaches env net d.subnet) :
    nb.Ends (OvnOctavia.memberCreate env member)
      (fun _ s => Counted net vipNet extra lbId s) := by
  unfold OvnOctavia.memberCreate
  rw [hp]
  refine ends_findOvnLbByPoolId ?_
  rcases hf : nb.poolRow poolId with ⟨key, _ | row⟩
  · refine .bind (.attempt (.throw ?_))
    dsimp only
    cases member.adminStateUp with
    | none => exact .throw h
    | some b =>
        cases b with
        | false => exact .bind (.pure (.bind (.throw h)))
        | true => exact .bind (.pure (.bind (.throw h)))
  · obtain ⟨hm, -, up, rfl⟩ := Nb.poolRow_eq_some hf
    have hrow : row ∈ nb.lbsNamed lbId := Nb.mem_lbsNamed.mpr ⟨hm, hpool _ _ hf⟩
    refine .bind (.attempt ((h.addMember hrow hd hwf hreach).mono fun added s hs => ?_))
    have hrest : ∀ status, s.Ends (do
        updateExternalIdsMemberStatus (some row) member.id (some status)
        currentOperatingStatuses env (some row)) fun _ s => Counted net vipNet extra lbId s :=
      fun status => hs.1.ends_neutral hs.2
        (.bind (neutral_updateExternalIdsMemberStatus row member.id (some status)) fun _ =>
          uses_currentOperatingStatuses env (some row)) fun _ _ hs _ => hs
    dsimp only
    cases member.adminStateUp with
    | none => exact .throw hs.1
    | some b =>
        cases b with
        | false => exact .bind (.pure (hrest _))
        | true =>
            rcases added with e | _ | text
            · exact .bind (.pure (hrest _))
            · exact .bind (.pure (hrest _))
            · refine ends_readLb ?_
              obtain ⟨live, hlive, hu⟩ := hs.2
              rw [live_of_lb? (hu ▸ hs.1.lb? hlive)]
              simp only [hs.1.unmonitored live hlive, ne_eq, not_true_eq_false, if_false]
              exact .bind (.pure (hrest _))

theorem Counted.memberDelete (h : Counted net vipNet extra lbId nb)
    (hp : member.poolId = some poolId) (hpool : nb.PoolOf lbId poolId) (hd : member.Describes d)
    (hwf : d.WellFormed env) (hreach : nb.Reaches env net d.subnet) :
    nb.Ends (OvnOctavia.memberDelete env member)
      (fun _ s => Counted net vipNet extra lbId s) := by
  unfold OvnOctavia.memberDelete
  rw [hp]
  refine ends_findOvnLbByPoolId ?_
  rcases hf : nb.poolRow poolId with ⟨key, _ | row⟩
  · exact .bind (.attempt (.bind (.throw (.bind (.throw h)))))
  · obtain ⟨hm, -, up, rfl⟩ := Nb.poolRow_eq_some hf
    have hrow : row ∈ nb.lbsNamed lbId := Nb.mem_lbsNamed.mpr ⟨hm, hpool _ _ hf⟩
    have hrest : ∀ (f : Status → Status) (s : Nb),
        CountedAt net vipNet extra lbId row.uuid s →
          s.Ends (updateExternalIdsMemberStatus (some row) member.id none >>= fun _ =>
            currentOperatingStatuses env (some row) >>= fun status => pure (f status))
            fun _ s => Counted net vipNet extra lbId s :=
      fun f s hs => hs.1.ends_neutral hs.2
        (.bind (neutral_updateExternalIdsMemberStatus row member.id none) fun _ =>
          .bind (uses_currentOperatingStatuses env (some row)) fun _ => .pure _) fun _ _ hs _ => hs
    refine .bind (.attempt (.bind ((h.removeMember hrow hd hwf hreach).mono fun r s hs => ?_)))
    cases r with
    | error e => exact hrest _ s hs
    | ok a =>
        refine ends_readLb ?_
        obtain ⟨live, hlive, hu⟩ := hs.2
        rw [live_of_lb? (hu ▸ hs.1.lb? hlive), hs.1.unmonitored live hlive]
        exact .pure (hrest _ s hs)

end Members

section Creating
variable {info : LoadBalancerInfo} {row : LoadBalancer} {a : LsAssociation}

/-- Deleted ports leave rows and switches alone. -/
theorem Counted.ends_deleteVipPorts (h : Counted net vipNet extra lbId nb) (port : Option Port)
    (additionalPorts : List (Option Port)) :
    nb.Ends (deleteVipPorts env port additionalPorts)
      (fun _ s => Counted net vipNet extra lbId s) := by
  refine Prog.Ends.of_uses (C := fun c => ∃ id, c = .portDelete id)
    (I := Counted net vipNet extra lbId)
    (uses_deleteVipPorts env (fun id => ⟨id, rfl⟩) port additionalPorts) ?_ h fun _ _ hs => hs
  rintro c s s' ⟨id, rfl⟩ hs ha
  cases ha
  exact ⟨⟨hs.wellFormed.nodup, hs.wellFormed.lt_next⟩, hs.distinct, hs.single, hs.unmonitored,
    fun row hrow => refs_of_same (hs.refs row hrow) rfl rfl fun _ hx => hx.of_switches rfl⟩

/-- The status of a failed creation is sent after the ports are deleted. -/
theorem Counted.ends_failed (h : Counted net vipNet extra lbId nb) (port : Option Port)
    (additionalPorts : List (Option Port)) (status : Status) :
    nb.Ends (deleteVipPorts env port additionalPorts >>= fun _ => pure status)
      (fun _ s => Counted net vipNet extra lbId s) := by
  refine .bind ((h.ends_deleteVipPorts port additionalPorts).mono fun r s hs => ?_)
  cases r with
  | error e => exact hs
  | ok a => exact .pure hs

theorem getPortFromInfo_id {c : Char} {id : Str} {networkId address : Option Str}
    {port : Option Port} {subnet : Option Subnet}
    (h : getPortFromInfo env (some (c :: id)) networkId address true = .ok (port, subnet)) :
    port ≠ none := by
  simp only [getPortFromInfo, Bind.bind, Except.bind] at h
  cases hg : env.getPort (c :: id) with
  | error e =>
      rw [hg] at h
      cases h
  | ok p =>
      rw [hg] at h
      dsimp only at h
      split at h
      · split at h
        · cases h
        · cases h
          exact nofun
      · cases h
        exact nofun

/-- A row is only written with the id of a port that was found. -/
theorem vipPortIdOf_none {subnet : Option Subnet} {id : Str}
    (hf : getPortFromInfo env info.vipPortId info.vipNetworkId info.vipAddress true =
      .ok (none, subnet)) : vipPortIdOf info none ≠ .ok id := by
  intro hid
  unfold vipPortIdOf at hid
  split at hid
  · next c id' hp =>
      rw [hp] at hf
      exact getPortFromInfo_id hf rfl
  · next hp _ => cases hp
  · cases hid

/-- The load balancer is created on the tenant network `vipNet`, with `extra` additional
VIPs. -/
structure Env.CreatesVip (env : Env) (vipNet : Str) (extra : Nat) (info : LoadBalancerInfo) :
    Prop where
  network : IsUuid vipNet
  port : ∀ port subnet, getPortFromInfo env info.vipPortId info.vipNetworkId info.vipAddress true =
    .ok (some port, subnet) → port.networkId = vipNet
  tenant : ∃ network, env.getNetwork vipNet = .ok (some network) ∧
    (network.providerPhysicalNetwork = none ∨ network.providerPhysicalNetwork = some [])
  additional : info.additionalVips.length = extra
  addresses : ∀ v ∈ info.additionalVips, v.ipAddress ≠ [] ∧ ',' ∉ v.ipAddress
  unassociated : info.lsRefs = none

theorem additional_created {vip vipPortId : Str} {up : Bool} (ha : a.additionalVips = true)
    (haddr : ∀ v ∈ info.additionalVips, v.ipAddress ≠ [] ∧ ',' ∉ v.ipAddress)
    (he : row.externalIds = addVipKeys info (baseExternalIds vip vipPortId up)) :
    a.additional row = info.additionalVips.length := by
  have hget : (addVipKeys info (baseExternalIds vip vipPortId up)).get? lbExtIdsAdditVipKey = _ :=
    get?_addVipKeys_additional
  rw [LsAssociation.additional, if_pos ha, he, hget]
  cases hvips : info.additionalVips with
  | nil => rfl
  | cons v vs =>
      rw [if_neg (List.cons_ne_nil v vs), ← hvips]
      have hjoin : Str.join ',' (info.additionalVips.map AdditionalVip.ipAddress) ≠ [] := by
        rw [Ne, Str.join_eq_nil_iff, hvips]
        · exact List.cons_ne_nil _ _
        · intro s hs
          obtain ⟨w, hw, rfl⟩ := List.mem_map.mp hs
          exact (haddr w hw).1
      obtain ⟨c, t, ht⟩ := List.exists_cons_of_ne_nil hjoin
      rw [ht]
      dsimp only
      rw [← ht, Str.splitOn_join, List.length_map]
      · intro s hs
        obtain ⟨w, hw, rfl⟩ := List.mem_map.mp hs
        exact (haddr w hw).2
      · rw [hvips]
        exact List.cons_ne_nil _ _

/-- No member and no count on a row that was just written. -/
theorem memberCount_created (vip vipPortId : Str) (up : Bool) (n : Str) :
    memberCount net n (addVipKeys info (baseExternalIds vip vipPortId up)) = 0 := by
  refine List.sum_eq_zero_iff_forall_eq_nat.mpr fun x hx => ?_
  obtain ⟨b, hb, rfl⟩ := List.mem_map.mp hx
  have hkey : b.1 ∈ (addVipKeys info (baseExternalIds vip vipPortId up)).keys :=
    List.mem_map_of_mem hb
  exact countIn_of_other (startsWith_pool_base (Table.addVipKeys_base _
    (Table.baseExternalIds_base _ _ _) _ hkey)) b.2

theorem loadLsRefs_created (vip vipPortId : Str) (up : Bool) :
    loadLsRefs (addVipKeys info (baseExternalIds vip vipPortId up)) = ∅ := by
  rw [loadLsRefs, get?_addVipKeys _ (by decide),
    get?_addAdditionalVips _ _ (by decide) (by decide)]
  rfl

theorem ends_findOvnLbOrFirst {β : Type} {f : LoadBalancer → Nbctl β}
    {Q : Except Exc β → Nb → Prop} (hrows : nb.lbsNamed lbId = [row]) (h : nb.Ends (f row) Q) :
    nb.Ends (findOvnLbOrFirst lbId none >>= f) Q := by
  refine .bind (.bind (.read ?_))
  rw [hrows]
  exact .pure (.pure h)

theorem ends_lsGet {β : Type} {name : Str} {ls : LogicalSwitch} {f : LogicalSwitch → Nbctl β}
    {Q : Except Exc β → Nb → Prop} (hls : nb.switch? (.name name) = some ls)
    (h : nb.Ends (f ls) Q) : nb.Ends (lsGet name >>= f) Q := by
  refine .bind (.read ?_)
  rw [hls]
  exact .pure h

/-- The associations of a row whose VIPs are not counted yet. -/
theorem ends_associateNewLb {port : Port} {subnet : Option Subnet} {ls : LogicalSwitch}
    {cs : List Command} {total : Str → Nat} {refs : Dict Str Nat} {nb₁ : Nb}
    (hc : env.CreatesVip vipNet extra info) (hport : port.networkId = vipNet)
    (hrow : nb.lb? row.uuid = some row) (hls : nb.switch? (.name (ovnName vipNet)) = some ls)
    (hcs : lsCommands row { networkId := some port.networkId, additionalVips := true }
      (some (ovnName vipNet)) (some ls) = .ok cs) (hcounts : Counts row nb cs total refs nb₁)
    (hdone : CountedAt net vipNet extra lbId row.uuid (nb₁.putLb (row.counting refs))) :
    nb.Ends (associateNewLb env info row port subnet)
      (fun _ s => CountedAt net vipNet extra lbId row.uuid s) := by
  obtain ⟨network, hnetwork, htenant⟩ := hc.tenant
  have hname : lsNameOf env { networkId := some port.networkId, additionalVips := true } =
      .ok (some (some (ovnName vipNet))) := by
    rw [hport]
    cases hvip : vipNet with
    | nil => exact absurd (hvip ▸ hc.network.1) (by decide)
    | cons c t => rfl
  have hswitch := hcounts.topology.switch? (ovnName vipNet)
  rw [hls, Option.map_some, Option.map_eq_some_iff] at hswitch
  obtain ⟨ls', hls', -⟩ := hswitch
  refine .ofExcept_bind (hport ▸ hnetwork) ?_
  have hvip : associateVipLs env row port false (some network) = updateLbToLsAssociation env row
      { networkId := some port.networkId, additionalVips := true } := by
    rcases htenant with h | h <;> simp only [associateVipLs, h]
  rw [hvip]
  refine .bind (ends_updateLbToLsAssociation hrow hname hls hcs hcounts ?_)
  refine ends_lsGet (hport ▸ hls') ?_
  refine hdone.1.ends_neutral hdone.2 (.bind ?_ fun _ => ?_) fun _ _ hs hrow => ⟨hs, hrow⟩
  · unfold associateVipLr
    split
    · exact .throw _
    · refine .bind .get fun nb => .bind (.ofExcept _) fun lr => ?_
      split
      · exact neutral_associateLr env row _
      · exact .pure ()
  · rw [hc.unassociated]
    exact .pure ()

/-- A row that was just written counts nothing, and its VIPs are still to be counted. -/
theorem Counted.createLb (h : Counted net vipNet extra lbId nb) (hnone : nb.lbsNamed lbId = [])
    (externalIds : Dict Str Str) (fields : List Str) (hrefs : loadLsRefs externalIds = ∅) :
    ∃ row, row.externalIds = externalIds ∧
      Sole lbId row (nb.createLb lbId none externalIds fields) ∧
      Refs row (fun _ => 0) (nb.createLb lbId none externalIds fields) := by
  have hnil : nb.loadBalancers.filter (·.name = lbId) = [] := hnone
  refine ⟨⟨nb.nextUuid, lbId, none, ∅, externalIds, ∅, fields, [], ∅⟩, rfl,
    ⟨h.wellFormed.createLb .., h.distinct, ?_, rfl⟩, ?_, ?_⟩
  · simp [Nb.lbsNamed, Nb.createLb, List.filter_append, hnil]
  · intro n _
    rw [hrefs]
    rfl
  · intro n _ hne
    exact absurd rfl hne

theorem Counted.lbCreate (h : Counted net vipNet extra lbId nb) (hnone : nb.lbsNamed lbId = [])
    (hid : info.id = lbId) (hc : env.CreatesVip vipNet extra info)
    (hswitch : (nb.switch? (.name (ovnName vipNet))).isSome) :
    nb.Ends (OvnOctavia.lbCreate env info none) (fun _ s => Counted net vipNet extra lbId s) := by
  unfold OvnOctavia.lbCreate
  rcases hv : vipPorts env info with ⟨⟨port, subnet, additionalPorts⟩, e | ok⟩
  · exact h.ends_failed port additionalPorts _
  · dsimp only
    cases hvid : vipPortIdOf info port with
    | error e => exact .bind (.throw h)
    | ok vipPortId =>
        have hfound := getPortFromInfo_of_vipPorts hv
        refine .ofExcept_bind rfl ?_
        split
        · next vip up hvip hup =>
            refine .bind (.attempt ?_)
            suffices hrow : nb.Ends (createLbRow env info none
                (addVipKeys info (baseExternalIds vip vipPortId up)) port subnet)
                (fun _ s => Counted net vipNet extra lbId s) from
              hrow.mono fun r s hs => by
                cases r with
                | ok a => exact .pure hs
                | error e => exact hs.ends_failed port additionalPorts _
            cases port with
            | none => exact absurd hvid (vipPortIdOf_none hfound)
            | some port =>
                have hport := hc.port port subnet hfound
                unfold createLbRow
                refine .bind (.transaction h ?_)
                obtain ⟨row, hids, hsole, hrefs⟩ := h.createLb hnone
                  (addVipKeys info (baseExternalIds vip vipPortId up))
                  (if env.areSelectionFieldsSupported then getSelectionKeys
                    info.lbAlgorithm else [])
                  (loadLsRefs_created vip vipPortId up)
                rw [hid]
                refine ends_findOvnLbOrFirst hsole.named ?_
                obtain ⟨ls, hls⟩ := Option.isSome_iff_exists.mp hswitch
                obtain ⟨cs, refs, nb₁, hcs, hcounts, -⟩ :=
                  hrefs.join hsole.wellFormed hsole.distinct
                  hsole.lb? hc.network hls
                  (rfl : ({ networkId := some port.networkId, additionalVips := true } :
                    LsAssociation).associate = true) rfl rfl
                have hadditional := additional_created (a :=
                  { networkId := some port.networkId, additionalVips := true }) rfl
                    hc.addresses hids
                refine (ends_associateNewLb hc hport hsole.lb? hls hcs hcounts ?_).mono
                  fun _ _ hs => hs.1
                rw [← Nb.putLb_self hsole.wellFormed hsole.lb?] at hcounts
                refine Counted.of_counts hsole rfl rfl hsole.unmonitored hcounts fun n => ?_
                rw [expected, hids, memberCount_created, hadditional, hc.additional, if_pos rfl,
                  Nat.zero_add]
        · exact h.ends_failed port additionalPorts _
        · exact .throw h

end Creating

section Pools
variable {info : PoolInfo} {row : LoadBalancer}

/-- The rows change their protocol, their options, or gain an empty pool. -/
theorem memberCount_poolCreate {up : Bool} {e : Dict Str Str} (n : Str)
    (hfresh : getPoolKey info.id up ∉ e.keys) :
    memberCount net n (poolCreateExternalIds info up e) = memberCount net n e := by
  have hset : memberCount net n (e.set (getPoolKey info.id up) []) = memberCount net n e := by
    have hsum := Dict.sum_set_of_notMem (countIn net n) [] hfresh
    rw [countIn_poolKey] at hsum
    exact hsum
  rcases poolCreateExternalIds_cases info up e with h | ⟨l, v, -, -, -, h⟩
  · rw [h, hset]
  · rw [h, memberCount_set_of_other rfl, hset]

theorem Counted.protocol (h : Counted net vipNet extra lbId nb) (hrow : row ∈ nb.lbsNamed lbId)
    (p : Option Protocol) : Counted net vipNet extra lbId (nb.putLb { row with protocol := p }) ∧
      (nb.putLb { row with protocol := p }).lbsNamed lbId = [{ row with protocol := p }] :=
  of_put (h.sole hrow) { row with protocol := p } _ rfl rfl (h.unmonitored row hrow) rfl rfl
    ⟨rfl, rfl⟩ (refs_of_same (h.refs row hrow) rfl rfl fun _ hx => hx.of_switches rfl)

/-- A transaction fails or does what it does on its own. -/
theorem ends_executeCommands (c : Command) (cs : List Command) {r : Except Exc Unit} {nb' : Nb}
    {Q : Except Exc Unit → Nb → Prop}
    (hrun : (executeCommands (c :: cs)).run Nb.apply nb = (r, nb'))
    (hfail : Q (.error .rowNotFound) nb) (hok : Q r nb') :
    nb.Ends (executeCommands (c :: cs)) Q := by
  refine Prog.Ends.transaction hfail ?_
  change (Prog.transaction (c :: cs)).run Nb.apply nb = _ at hrun
  simp only [Prog.transaction, Prog.run] at hrun
  cases ht : Prog.transact Nb.apply (c :: cs) nb with
  | ok s =>
      rw [ht] at hrun
      cases hrun
      exact hok
  | error e =>
      rw [ht] at hrun
      cases hrun
      exact hok

theorem Counted.poolCreateOn {up : Bool} (h : Counted net vipNet extra lbId nb)
    (hrow : row ∈ nb.lbsNamed lbId) (hfresh : getPoolKey info.id up ∉ row.externalIds.keys) :
    nb.Ends (OvnOctavia.poolCreateOn info up row)
      (fun _ s => Counted net vipNet extra lbId s) := by
  have ho := run_poolCreateOn h.wellFormed (h.lb? hrow) info up
  unfold OvnOctavia.poolCreateOn at ho ⊢
  simp only [Prog.run_bind, run_readLb] at ho
  refine ends_readLb (ends_executeCommands _ _ ho h ?_)
  refine (of_put (h.sole hrow) { row with
    externalIds := poolCreateExternalIds info up row.externalIds
    options := affinityOptions (createdTimeout info) row.options } _ rfl rfl
    (h.unmonitored row hrow) rfl rfl ⟨rfl, rfl⟩ ?_).1
  refine refs_of_same ((h.refs row hrow).congr fun n _ => ?_) rfl (loadLsRefs_congr ?_)
    fun _ hx => hx.of_switches rfl
  · rw [expected, expected, memberCount_poolCreate n hfresh]
  · rcases poolCreateExternalIds_cases info up row.externalIds with he | ⟨l, v, -, -, -, he⟩
    · rw [he, Dict.get?_set_of_ne _ _ (poolKey_ne_lsRefs info.id up)]
    · have hkey : lbExtIdsLsRefsKey ≠ getListenerKey l true :=
        fun hk => listenerKey_notMem_base l true (hk ▸ by decide)
      rw [he, Dict.get?_set_of_ne _ _ hkey, Dict.get?_set_of_ne _ _ (poolKey_ne_lsRefs info.id up)]

/-- The row of the only protocol is used. -/
theorem Counted.getOrCreateOvnLb (h : Counted net vipNet extra lbId nb) {p : Protocol}
    (hp : ∀ row ∈ nb.lbsNamed lbId, row.protocol = none ∨ row.protocol = some p) (up : Bool)
    (alg : Option LbAlgorithm) :
    nb.Ends (OvnOctavia.getOrCreateOvnLb env lbId p up alg)
      (fun r s => Counted net vipNet extra lbId s ∧ ∀ row, r = .ok row → row ∈ s.lbsNamed lbId ∧
        ∃ row₀ ∈ nb.lbsNamed lbId, row.externalIds = row₀.externalIds) := by
  unfold OvnOctavia.getOrCreateOvnLb
  refine .bind (.read ?_)
  cases hrows : nb.lbsNamed lbId with
  | nil => exact .throw ⟨h, nofun⟩
  | cons row rows =>
      have hrow : row ∈ nb.lbsNamed lbId := hrows ▸ List.mem_cons_self ..
      have hone := h.single row hrow
      rw [hrows] at hone
      obtain rfl := (List.cons.inj hone).2
      refine .pure ?_
      rcases hp row hrow with hnone | hsome
      · have hfind : List.find? (fun lb => decide (lb.protocol = some p)) [row] = none := by
          simp [hnone]
        have hprovide : provideOvnLb env lbId p up alg [row] =
            .transaction [.lbUpdate row.uuid (.setProtocol (some p))] := by
          simp [provideOvnLb, hnone]
        obtain ⟨hcounted, hnamed⟩ := h.protocol hrow (some p)
        dsimp only
        rw [hfind, hprovide]
        refine .bind (.transaction ⟨h, nofun⟩ ?_)
        rw [Prog.transact_cons, Nb.apply_lbUpdate (h.lb? hrow),
          Nb.updateLb_eq_putLb h.wellFormed (h.lb? hrow) rfl]
        refine .read ?_
        change Prog.Ends _ _ (Prog.ofExcept (selectOvnLb p
          ((nb.putLb { row with protocol := some p }).lbsNamed lbId))) _ _
        rw [hnamed]
        refine .ofExcept ⟨hcounted, fun row' hr => ?_⟩
        have hsel : selectOvnLb p [{ row with protocol := some p }] =
            .ok { row with protocol := some p } := by
          simp [selectOvnLb, findProtocol]
        rw [hsel] at hr
        cases hr
        exact ⟨hnamed ▸ List.mem_singleton_self _, row, List.mem_singleton_self row, rfl⟩
      · have hfind : List.find? (fun lb => decide (lb.protocol = some p)) [row] = some row := by
          simp [hsome]
        dsimp only
        rw [hfind]
        refine .pure ⟨h, fun row' hr => ?_⟩
        cases hr
        exact ⟨hrow, row, List.mem_singleton_self row, rfl⟩

/-- A new pool counts nothing; it is one of the row's protocol. -/
theorem Counted.poolCreate (h : Counted net vipNet extra lbId nb) (hlb : info.loadbalancerId = lbId)
    (hp : ∀ row ∈ nb.lbsNamed lbId, row.protocol = none ∨ row.protocol = some info.protocol)
    (hfresh : ∀ row ∈ nb.lbsNamed lbId, ∀ up, getPoolKey info.id up ∉ row.externalIds.keys) :
    nb.Ends (OvnOctavia.poolCreate env info) (fun _ s => Counted net vipNet extra lbId s) := by
  subst hlb
  unfold OvnOctavia.poolCreate
  cases hup : info.adminStateUp with
  | none => exact .throw h
  | some up =>
      dsimp only
      refine .bind ((h.getOrCreateOvnLb hp up info.lbAlgorithm).mono fun r s hs => ?_)
      cases r with
      | error e => exact hs.1
      | ok row =>
          obtain ⟨hrow, row₀, hrow₀, he⟩ := hs.2 row rfl
          have hnew : getPoolKey info.id up ∉ row.externalIds.keys := he ▸ hfresh row₀ hrow₀ up
          change s.Ends ((OvnOctavia.poolCreateOn info up row).attempt >>= fun r => _) _
          refine .bind (.attempt ((hs.1.poolCreateOn hrow hnew).mono fun r s hs => ?_))
          cases r with
          | ok a => exact .pure hs
          | error e => exact .pure hs

end Pools

end Handlers

section Runs
variable {net : Str → Str} {vipNet : Str} {extra : Nat} {lbId : Str}

/-- The database after a request whose marked commits failed. -/
def handledFlaky (env : Env) (marks : List Bool) (r : Request) (nb : Nb) : Nb :=
  ((handle env r).runFlaky Nb.apply .rowNotFound marks nb).1.2

/-- A request on a member of the load balancer, on a network with a switch. -/
structure Nb.MemberRequest (net : Str → Str) (lbId : Str) (env : Env) (nb : Nb)
    (member : MemberInfo) (d : MemberData) : Prop where
  pool : ∀ poolId, member.poolId = some poolId → nb.PoolOf lbId poolId
  describes : member.Describes d
  wellFormed : d.WellFormed env
  reaches : nb.Reaches env net d.subnet

/-- One request of a run on a load balancer with one protocol. An association may fail
twice before it goes through. -/
inductive CountStep (net : Str → Str) (vipNet : Str) (extra : Nat) (lbId : Str) : Nb → Nb → Prop
  | lbCreate {nb : Nb} {env : Env} {marks : List Bool} {info : LoadBalancerInfo}
      (hm : Prog.Spared marks) (hid : info.id = lbId) (hnone : nb.lbsNamed lbId = [])
      (hc : env.CreatesVip vipNet extra info)
      (hswitch : (nb.switch? (.name (ovnName vipNet))).isSome) :
      CountStep net vipNet extra lbId nb (handledFlaky env marks (.lbCreate info) nb)
  | poolCreate {nb : Nb} {env : Env} {marks : List Bool} {info : PoolInfo}
      (hm : Prog.Spared marks) (hlb : info.loadbalancerId = lbId)
      (hp : ∀ row ∈ nb.lbsNamed lbId, row.protocol = none ∨ row.protocol = some info.protocol)
      (hfresh : ∀ row ∈ nb.lbsNamed lbId, ∀ up, getPoolKey info.id up ∉ row.externalIds.keys) :
      CountStep net vipNet extra lbId nb (handledFlaky env marks (.poolCreate info) nb)
  | memberCreate {nb : Nb} {env : Env} {marks : List Bool} {member : MemberInfo} {d : MemberData}
      (hm : Prog.Spared marks) (hr : nb.MemberRequest net lbId env member d) :
      CountStep net vipNet extra lbId nb (handledFlaky env marks (.memberCreate member) nb)
  | memberDelete {nb : Nb} {env : Env} {marks : List Bool} {member : MemberInfo} {d : MemberData}
      (hm : Prog.Spared marks) (hr : nb.MemberRequest net lbId env member d) :
      CountStep net vipNet extra lbId nb (handledFlaky env marks (.memberDelete member) nb)

/-- What a client of the counts can rely on. -/
def RefCountsExact (net : Str → Str) (vipNet : Str) (extra : Nat) (lbId : Str) (nb : Nb) : Prop :=
  ∀ row ∈ nb.lbsNamed lbId, ∀ n, IsUuid n →
    (loadLsRefs row.externalIds).get? (ovnName n) =
        (if expected net vipNet extra row.externalIds n = 0 then none
          else some (expected net vipNet extra row.externalIds n)) ∧
      (ovnName n ∈ (loadLsRefs row.externalIds).keys →
        ∀ ls, nb.switch? (.name (ovnName n)) = some ls → row.uuid ∈ ls.loadBalancer)

theorem Counted.exact {nb : Nb} (h : Counted net vipNet extra lbId nb) :
    RefCountsExact net vipNet extra lbId nb := by
  intro row hrow n hn
  have hcount := (h.refs row hrow).counts n hn
  refine ⟨hcount, fun hkey => (h.refs row hrow).links n hn fun hzero => ?_⟩
  rw [if_pos hzero, Dict.get?_eq_none_iff] at hcount
  exact hcount hkey

theorem Nb.Ends.map {α β : Type} {nb : Nb} {p : Nbctl α} {f : α → β} {P : Nb → Prop}
    (h : nb.Ends p fun _ s => P s) : nb.Ends (f <$> p) fun _ s => P s := by
  refine .bind (h.mono fun r s hs => ?_)
  cases r with
  | ok a => exact .pure hs
  | error e => exact hs

/-- What a handler ends with holds after its request. -/
theorem Nb.Ends.of_handle {nb : Nb} {env : Env} {r : Request} {P : Nb → Prop}
    (h : nb.Ends (handle env r) fun _ s => P s) {marks : List Bool} (hm : Prog.Spared marks) :
    P (handledFlaky env marks r nb) := (h marks hm).2

theorem CountStep.keeps {nb nb' : Nb} (hs : CountStep net vipNet extra lbId nb nb')
    (h : Counted net vipNet extra lbId nb) : Counted net vipNet extra lbId nb' := by
  cases hs with
  | lbCreate hm hid hnone hc hswitch =>
      exact Nb.Ends.of_handle (h.lbCreate hnone hid hc hswitch).map hm
  | poolCreate hm hlb hp hfresh =>
      exact Nb.Ends.of_handle (h.poolCreate hlb hp hfresh).map hm
  | @memberCreate env marks member d hm hr =>
      refine Nb.Ends.of_handle (Nb.Ends.map ?_) hm
      cases hp : member.poolId with
      | none =>
          unfold OvnOctavia.memberCreate
          rw [hp]
          exact .throw h
      | some poolId =>
          exact h.memberCreate hp (hr.pool poolId hp) hr.describes hr.wellFormed hr.reaches
  | @memberDelete env marks member d hm hr =>
      refine Nb.Ends.of_handle (Nb.Ends.map ?_) hm
      cases hp : member.poolId with
      | none =>
          unfold OvnOctavia.memberDelete
          rw [hp]
          exact .throw h
      | some poolId =>
          exact h.memberDelete hp (hr.pool poolId hp) hr.describes hr.wellFormed hr.reaches

/-- After every run on a load balancer that did not exist before, its row counts its
members and its VIPs, and the switches it counts are linked to it. -/
theorem refCountsExact_of_run {nb₀ nb : Nb} (hw : nb₀.WellFormed) (hd : nb₀.DistinctSwitches)
    (hnone : nb₀.lbsNamed lbId = [])
    (hrun : Relation.ReflTransGen (CountStep net vipNet extra lbId) nb₀ nb) :
    RefCountsExact net vipNet extra lbId nb := by
  refine Counted.exact ?_
  induction hrun with
  | refl =>
      refine ⟨hw, hd, fun row hrow => ?_, fun row hrow => ?_, fun row hrow => ?_⟩ <;>
        exact absurd (hnone ▸ hrow) List.not_mem_nil
  | tail _ hs ih => exact hs.keeps ih

end Runs

section Example

/-- The network and the subnet of the example belong to a tenant. -/
def exampleTenantEnv : Env :=
  { exampleEnv with
    listPorts := fun _ =>
      .ok [⟨"port".toList, exampleId 'd', [⟨"sub".toList, "10.0.0.2".toList⟩]⟩]
    getSubnet := fun _ => .ok ⟨exampleId 'd', none, "10.0.0.0/24".toList⟩ }

def exampleTenantNb : Nb :=
  { exampleNb with switches := [⟨1, ovnName (exampleId 'd'), [], []⟩] }

def examplePool : PoolInfo :=
  { id := exampleId 'c', loadbalancerId := exampleId 'a', protocol := .tcp,
    adminStateUp := some true }

def exampleMember : MemberInfo :=
  { id := exampleId 'e', address := some "10.0.0.7".toList, protocolPort := some "80".toList
    poolId := some (exampleId 'c'), subnetId := some "sub".toList, adminStateUp := some true }

def exampleMemberData : MemberData :=
  { id := exampleId 'e', ip := "10.0.0.7".toList, port := "80".toList, subnet := "sub".toList }

/-- The first association fails twice, that of the member once. -/
def exampleRetried : Nb :=
  handledFlaky exampleTenantEnv [false, true, true] (.lbCreate exampleLb) exampleTenantNb

def exampleWithPool : Nb :=
  handledFlaky exampleTenantEnv [] (.poolCreate examplePool) exampleRetried

def exampleWithMember : Nb :=
  handledFlaky exampleTenantEnv [false, true] (.memberCreate exampleMember) exampleWithPool

theorem createsVip_example :
    exampleTenantEnv.CreatesVip (exampleId 'd') 0 exampleLb where
  network := isUuid_exampleId (by decide)
  port := by
    intro port subnet h
    cases h
    rfl
  tenant := ⟨⟨none⟩, rfl, .inl rfl⟩
  additional := rfl
  addresses := nofun
  unassociated := rfl

theorem refCountsExact_of_run_example :
    RefCountsExact (fun _ => exampleId 'd') (exampleId 'd') 0 (exampleId 'a')
      exampleWithMember := by
  have hspared : Prog.Spared [false, true, true] := by decide
  have hcreate : CountStep (fun _ => exampleId 'd') (exampleId 'd') 0 (exampleId 'a')
      exampleTenantNb exampleRetried :=
    .lbCreate hspared rfl rfl createsVip_example rfl
  have hpool : CountStep (fun _ => exampleId 'd') (exampleId 'd') 0 (exampleId 'a')
      exampleRetried exampleWithPool :=
    .poolCreate Prog.spared_nil rfl (by decide +kernel) (by decide +kernel)
  have hmember : CountStep (fun _ => exampleId 'd') (exampleId 'd') 0 (exampleId 'a')
      exampleWithPool exampleWithMember := by
    refine .memberCreate (d := exampleMemberData) (by decide) ⟨?_, ?_, ?_, ?_⟩
    · intro poolId _ key row hrow
      have hnames : ∀ row ∈ exampleWithPool.loadBalancers, row.name = exampleId 'a' := by
        decide +kernel
      exact hnames row (Nb.poolRow_eq_some hrow).1
    · exact ⟨rfl, rfl, rfl, rfl⟩
    · have hport : exampleMemberData.port = ['8', '0'] := rfl
      exact ⟨isUuid_exampleId (by decide), rfl, by decide, by rw [hport]; simp, by decide⟩
    · exact ⟨⟨rfl, ⟨_, rfl, rfl⟩, isUuid_exampleId (by decide), by decide⟩, by decide +kernel⟩
  have hw : exampleTenantNb.WellFormed := ⟨List.nodup_nil, nofun⟩
  exact refCountsExact_of_run hw (List.nodup_singleton 1) rfl
    (((Relation.ReflTransGen.refl.tail hcreate).tail hpool).tail hmember)

end Example

end OvnOctavia

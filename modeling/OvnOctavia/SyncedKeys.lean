import OvnOctavia.Driver
import OvnOctavia.Peripheral
import OvnOctavia.PoolValues
import OvnOctavia.Table

/-!
The keys of a row under a sync. A sync deletes no row and takes no object out of
the keys of one: whatever holds of the keys of a row is kept when the keys a sync
writes keep it.
-/

namespace OvnOctavia

section Commands
variable {I : Dict Str Str → Prop} {u : Nat} {nb nb' : Nb} {c : Command}

/-- The commands that keep what holds of the keys of the row `u`. -/
def Command.KeepsKeys (u : Nat) (I : Dict Str Str → Prop) : Command → Prop
  | lbDel _ => False
  | lbUpdate v (.setExternalIds kv) => v = u → ∀ e, I e → I (e.update kv)
  | lbUpdate v (.removeExternalId k) => v = u → ∀ e, I e → I (e.erase k)
  | _ => True

/-- The row `u` is there with keys of which `I` holds. -/
def Nb.RowWith (nb : Nb) (u : Nat) (I : Dict Str Str → Prop) : Prop :=
  ∃ row, nb.lb? u = some row ∧ I row.externalIds

theorem Nb.RowWith.updateLb (h : nb.RowWith u I) (v : Nat) {op : LbOp}
    (hop : v = u → ∀ row : LoadBalancer, I row.externalIds →
      I (LbOp.apply row op).externalIds) :
    (nb.updateLb v (LbOp.apply · op)).RowWith u I := by
  obtain ⟨row, hrow, hi⟩ := h
  refine ⟨if row.uuid = v then LbOp.apply row op else row, ?_, ?_⟩
  · rw [Nb.lb?_updateLb (fun lb => by cases op <;> rfl), hrow, Option.map_some]
  · split
    · next hv => exact hop (hv.symm.trans (Nb.lb?_eq_some hrow).2) row hi
    · exact hi

theorem Nb.RowWith.of_rows (h : nb.RowWith u I) (hr : nb'.loadBalancers = nb.loadBalancers) :
    nb'.RowWith u I := by
  obtain ⟨row, hrow, hi⟩ := h
  exact ⟨row, by rw [Nb.lb?, hr]; exact hrow, hi⟩

theorem Command.KeepsKeys.rowWith (hc : c.KeepsKeys u I) (h : nb.RowWith u I)
    (ha : Nb.apply c nb = .ok nb') : nb'.RowWith u I := by
  cases c with
  | lbCreate name protocol externalIds fields =>
      cases ha
      obtain ⟨row, hrow, hi⟩ := h
      refine ⟨row, ?_, hi⟩
      rw [Nb.lb?, Nb.createLb, List.find?_append]
      exact Option.or_eq_some_iff.mpr (.inl hrow)
  | lbUpdate v op =>
      simp only [Nb.apply] at ha
      split at ha <;> cases ha
      refine h.updateLb v fun hv row hi => ?_
      cases op with
      | setExternalIds kv => exact hc hv _ hi
      | removeExternalId k => exact hc hv _ hi
      | _ => exact hi
  | lbDel v => exact hc.elim
  | hcCreate v vip options externalIds =>
      simp only [Nb.apply] at ha
      split at ha <;> cases ha
      refine Nb.RowWith.of_rows (h.updateLb v fun _ row hi => ?_) rfl
      exact hi
  | portDelete id =>
      cases ha
      exact h.of_rows rfl
  | hcUpdate | hcDestroy | natClearExternalMac | natClearLogicalPort | lsLbAdd | lrLbAdd =>
      simp only [Nb.apply] at ha
      split at ha <;> cases ha
      exact h.of_rows rfl
  | lsLbDel | lrLbDel =>
      simp only [Nb.apply] at ha
      split at ha
      · split at ha
        · cases ha
          exact h.of_rows rfl
        · cases ha
      · cases ha

theorem Nb.RowWith.run {α : Type} {p : Nbctl α} (hp : p.Uses (Command.KeepsKeys u I))
    (h : nb.RowWith u I) : (p.run Nb.apply nb).2.RowWith u I :=
  hp.run_keeps (I := fun s => s.RowWith u I) (fun _ _ _ hc hs ha => hc.rowWith hs ha) h

end Commands

section Base
variable {I : Dict Str Str → Prop} {u : Nat} {e kv : Dict Str Str} {c : Command}
  {lb : LoadBalancer}

/-- What holds of the keys has nothing to do with the fixed ones. -/
structure IgnoresBase (I : Dict Str Str → Prop) : Prop where
  set : ∀ k ∈ baseKeys, ∀ v e, I e → I (e.set k v)
  erase : ∀ k ∈ baseKeys, ∀ e, I e → I (e.erase k)

/-- Nor with those that only associations and health monitors write. -/
structure IgnoresPeripheral (I : Dict Str Str → Prop) : Prop where
  set : ∀ k ∈ peripheralKeys, ∀ v e, I e → I (e.set k v)
  erase : ∀ k ∈ peripheralKeys, ∀ e, I e → I (e.erase k)

/-- Nor with the statuses of the members. -/
structure IgnoresStatuses (I : Dict Str Str → Prop) : Prop extends IgnoresPeripheral I where
  statuses : ∀ d e, I e → I (withStatuses e d)

theorem IgnoresBase.peripheral (hI : IgnoresBase I) : IgnoresPeripheral I :=
  have hbase : ∀ k ∈ peripheralKeys, k ∈ baseKeys := by decide
  ⟨fun k hk => hI.set k (hbase k hk), fun k hk => hI.erase k (hbase k hk)⟩

theorem IgnoresBase.ignoresStatuses (hI : IgnoresBase I) : IgnoresStatuses I where
  toIgnoresPeripheral := hI.peripheral
  statuses := by
    intro d e he
    rw [withStatuses]
    split
    · exact hI.erase _ (by decide) e he
    · exact hI.set _ (by decide) _ e he

theorem IgnoresBase.update (hI : IgnoresBase I) (hkv : ∀ k ∈ kv.keys, k ∈ baseKeys) (he : I e) :
    I (e.update kv) := by
  have hfold : ∀ (l : List (Str × Str)) (e : Dict Str Str), (∀ b ∈ l, b.1 ∈ baseKeys) → I e →
      I (l.foldl (fun acc b => acc.set b.1 b.2) e) := by
    intro l
    induction l with
    | nil => exact fun _ _ he => he
    | cons b l ih =>
        intro e hl he
        rw [List.forall_mem_cons] at hl
        exact ih _ hl.2 (hI.set _ hl.1 _ _ he)
  exact hfold _ _ (fun b hb => hkv _ (List.mem_map_of_mem hb)) he

theorem Command.IsPeripheral.keepsKeys (hI : IgnoresPeripheral I) (h : c.IsPeripheral) :
    c.KeepsKeys u I := by
  cases c with
  | lbCreate | lbDel | hcCreate => exact h.elim
  | lbUpdate v op =>
      cases op with
      | setExternalIds kv =>
          obtain ⟨k, hk, x, rfl⟩ := h
          exact fun _ e he => hI.set k hk x e he
      | removeExternalId k => exact fun _ e he => hI.erase k h e he
      | _ => trivial
  | _ => trivial

variable {α : Type} {p : Nbctl α}

theorem Peripheral.keepsKeys (hI : IgnoresPeripheral I) (h : Peripheral p) :
    p.Uses (Command.KeepsKeys u I) :=
  h.mono fun _ hc => hc.keepsKeys hI

theorem AssociatesOn.keepsKeys {v : Nat} (hI : IgnoresPeripheral I) (h : AssociatesOn v p) :
    p.Uses (Command.KeepsKeys u I) :=
  h.mono fun _ hc => hc.isPeripheral.1.keepsKeys hI

theorem keepsKeys_updateExternalIdsMemberStatus (hI : IgnoresStatuses I) (lb : LoadBalancer)
    (member : Str) (status : Option Str) :
    (updateExternalIdsMemberStatus (some lb) member status).Uses (Command.KeepsKeys u I) := by
  refine .bind (uses_readLb lb) fun row =>
    .bind (.ofExcept _) fun statuses => .execute fun c hc => ?_
  rw [List.mem_singleton.mp hc, storeMemberStatuses]
  have hkept := hI.statuses (withStatus statuses member status)
  simp only [withStatuses] at hkept
  split
  · next hnone =>
      intro _ e he
      have herase := hkept e he
      rw [if_pos hnone] at herase
      exact herase
  · next hnone =>
      intro _ e he
      have hset := hkept e he
      rw [if_neg hnone] at hset
      exact hset

theorem keepsKeys_updateMemberStatuses (hI : IgnoresStatuses I) (lb : LoadBalancer)
    (poolId provisioning operating : Str) :
    (updateMemberStatuses lb poolId provisioning operating).Uses (Command.KeepsKeys u I) := by
  refine .bind (uses_readLb lb) fun row => ?_
  split
  · exact .throw _
  · exact .pure _
  · refine .mapEach fun text _ => .bind (.ofExcept _) fun id => ?_
    exact .bind (keepsKeys_updateExternalIdsMemberStatus hI lb id _) fun _ => .pure _

theorem keepsKeys_monitorMembers (env : Env) (hI : IgnoresStatuses I) (lb : LoadBalancer)
    (poolKey : Str) (ms : List MemberData) :
    (monitorMembers env lb poolKey ms).Uses (Command.KeepsKeys u I) := by
  induction ms with
  | nil => exact .pure _
  | cons m ms ih =>
      refine .bind ((peripheral_updateHmMember env lb poolKey m.ip false).peripheral.keepsKeys
        hI.toIgnoresPeripheral) fun status => ?_
      split
      · exact .bind ((peripheral_cleanIpPortMappings env lb poolKey).peripheral.keepsKeys
          hI.toIgnoresPeripheral) fun _ => .pure _
      · exact .bind (keepsKeys_updateExternalIdsMemberStatus hI lb m.id _) fun _ => ih

theorem keepsKeys_setHms (hI : IgnoresPeripheral I) (lb : LoadBalancer) (hms : List Str) :
    (setHms lb hms).KeepsKeys u I :=
  fun _ e he => hI.set lbExtIdsHmsKey (by decide) _ e he

end Base

section Syncs
variable {env : Env} {I : Dict Str Str → Prop} {u : Nat} {α : Type} {p : Nbctl α}

/-- The program keeps what holds of the keys of the row `u`. -/
abbrev KeepsRow (u : Nat) (I : Dict Str Str → Prop) (p : Nbctl α) (R : α → Prop) : Prop :=
  Prog.Keeps Nb.apply (fun nb => nb.RowWith u I) p R

theorem keepsRow_of_uses (hp : p.Uses (Command.KeepsKeys u I)) : KeepsRow u I p fun _ => True :=
  .of_uses hp fun _ _ _ hc hs ha => hc.rowWith hs ha

theorem Nb.RowWith.after {R : α → Prop} {nb nb' : Nb} {r : Except Exc α} (h : nb.RowWith u I)
    (hp : KeepsRow u I p R) (hrun : p.run Nb.apply nb = (r, nb')) : nb'.RowWith u I :=
  hp.after h hrun

theorem keepsRow_readLb (lb : LoadBalancer) : KeepsRow u I (readLb lb) fun row =>
    row.uuid = lb.uuid ∧ (lb.uuid = u → I row.externalIds) := by
  refine .read fun nb h => .pure ⟨lb.uuid_live nb, fun hu => ?_⟩
  obtain ⟨row, hrow, hi⟩ := h
  subst hu
  rw [live_of_lb? hrow]
  exact hi

theorem keepsRow_ofExcept (r : Except Exc α) : KeepsRow u I (Prog.ofExcept r) fun _ => True :=
  .ofExcept fun _ _ => trivial

theorem keepsRow_executeCommands {cs : List Command} (h : ∀ c ∈ cs, c.KeepsKeys u I) :
    KeepsRow u I (executeCommands cs) fun _ => True :=
  keepsRow_of_uses (uses_executeCommands h)

/-- The commands of a refresh write the traffic map only. -/
theorem keepsRow_refreshLbVips (env : Env) (lb : LoadBalancer) (e : Dict Str Str) (isSync : Bool) :
    KeepsRow u I (refreshLbVips env lb e isSync) fun cs => ∀ c ∈ cs, c.KeepsKeys u I := by
  refine .bind (keepsRow_readLb lb) fun row _ => .bind (keepsRow_ofExcept _) fun vips _ => ?_
  split
  · exact .pure (by simp)
  · refine .pure fun c hc => ?_
    rw [List.mem_cons, List.mem_singleton] at hc
    rcases hc with rfl | rfl
    · exact trivial
    · exact trivial

/-- What holds of the keys is kept when a sync writes the VIP. -/
def KeepsVip (info : LoadBalancerInfo) (I : Dict Str Str → Prop) : Prop :=
  ∀ vip vipPortId up, info.vipAddress = some vip → ∀ e, I e →
    I (e.update (addVipKeys info (baseExternalIds vip vipPortId up)))

theorem IgnoresBase.keepsVip (hI : IgnoresBase I) (info : LoadBalancerInfo) : KeepsVip info I :=
  fun vip vipPortId up _ _ he =>
    hI.update (Table.addVipKeys_base info (Table.baseExternalIds_base vip vipPortId up)) he

theorem keepsKeys_syncLbCommands {info : LoadBalancerInfo} {row : LoadBalancer}
    (hI : row.uuid = u → KeepsVip info I) {port : Port} {cs : List Command}
    (h : syncLbCommands env info row port = .ok cs) : ∀ c ∈ cs, c.KeepsKeys u I := by
  unfold syncLbCommands at h
  split at h
  · next vip vipPortId hvip _ =>
      cases h
      intro c hc
      rcases List.mem_append.mp hc with hc | hc
      · split at hc
        · cases hc
        · rw [List.mem_singleton.mp hc]
          exact fun hu e he => hI hu vip vipPortId _ hvip e he
      · split at hc
        · rw [List.mem_singleton.mp hc]
          trivial
        · cases hc
  · cases h

theorem keepsRow_syncLbAssociations (hI : IgnoresPeripheral I) (lb : LoadBalancer) (port : Port)
    (subnet : Subnet) (info : LoadBalancerInfo) :
    KeepsRow u I (syncLbAssociations env lb port subnet info) fun _ => True := by
  refine .bind (keepsRow_ofExcept _) fun network _ => ?_
  have hvip : KeepsRow u I (syncVipLs env lb port network) fun _ => True := by
    cases network with
    | none => exact .pure trivial
    | some network =>
        refine .tryCatch (keepsRow_of_uses
          ((associates_associateVipLs env lb port true (some network)).keepsKeys hI)) fun e => ?_
        split
        · exact .pure trivial
        · exact .throw _
  refine .bind hvip fun _ _ => .bind .get fun nb _ => ?_
  have hlr : KeepsRow u I (syncVipLr env nb lb subnet
      (nb.switch? (.name (ovnName subnet.networkId)))) fun _ => True := by
    unfold syncVipLr
    split
    · exact keepsRow_of_uses ((associates_syncLbToLrAssociation env lb _).keepsKeys hI)
    · exact .pure trivial
  refine .bind hlr fun _ _ => ?_
  unfold syncCountedLs
  split
  · refine .each fun name _ => ?_
    split
    · exact .throw _
    · split
      · exact .pure trivial
      · exact keepsRow_of_uses ((associates_updateLbToLsAssociation env lb _).keepsKeys hI)
  · exact .pure trivial

theorem keepsRow_lbSync (hI : IgnoresPeripheral I) {info : LoadBalancerInfo} (lb : LoadBalancer)
    (hvip : lb.uuid = u → KeepsVip info I) :
    KeepsRow u I (lbSync env info lb) fun _ => True := by
  rw [lbSync]
  split
  · exact .pure trivial
  · exact .throw _
  · split
    · exact .pure trivial
    · exact .pure trivial
    · exact .throw _
    · refine .bind (keepsRow_readLb lb) fun row hrow => .caught ?_ fun r => ?_
      · exact .bind (R := fun cs => ∀ c ∈ cs, c.KeepsKeys u I)
          (.ofExcept fun cs hcs => keepsKeys_syncLbCommands (hrow.1 ▸ hvip) hcs)
          fun cs hcs => keepsRow_executeCommands hcs
      · split
        · exact .pure trivial
        · refine .bind (keepsRow_readLb lb) fun row _ => .caught ?_ fun r => ?_
          · exact .bind (keepsRow_of_uses (uses_findOvnLbOrFirst _ _)) fun found _ =>
              keepsRow_syncLbAssociations hI found _ _ info
          · split
            · exact .pure trivial
            · exact .pure trivial
    · exact .pure trivial

/-- A synced listener writes its key, and nothing else among the objects. -/
theorem keepsRow_listenerSync (env : Env) (info : ListenerInfo) (lb : LoadBalancer)
    (hset : lb.uuid = u → ∀ e, I e →
      I (e.set (getListenerKey info.id (info.adminStateUp.getD false))
        (makeListenerKeyValue info.protocolPort (defaultPoolKey info)))) :
    KeepsRow u I (listenerSync env info lb) fun _ => True := by
  refine .bind (keepsRow_readLb lb) fun row hrow =>
    .bind (keepsRow_refreshLbVips env lb _ true).attempt fun r hr => ?_
  cases r with
  | error e => exact .pure trivial
  | ok refresh =>
      refine .tryCatch (keepsRow_executeCommands fun c hc => ?_) fun _ => .pure trivial
      rw [List.append_assoc] at hc
      rcases List.mem_append.mp hc with hc | hc
      · unfold syncListenerKey at hc
        split at hc
        · cases hc
        · rw [List.mem_singleton.mp hc]
          exact hrow.1 ▸ hset
      · rcases List.mem_append.mp hc with hc | hc
        · unfold syncProtocol at hc
          split at hc
          · cases hc
          · rw [List.mem_singleton.mp hc]
            trivial
        · exact hr _ rfl c hc

end Syncs

section Objects
variable {env : Env} {I : Dict Str Str → Prop} {u : Nat}

/-- What holds of the keys is kept when a sync writes the listener's key. -/
def KeepsListener (listener : Octavia.Listener) (I : Dict Str Str → Prop) : Prop :=
  ∀ info, getListenerRequestInfo listener = .ok info → ∀ e, I e →
    I (e.set (getListenerKey info.id (info.adminStateUp.getD false))
      (makeListenerKeyValue info.protocolPort (defaultPoolKey info)))

/-- The key under which a sync writes a listener. -/
def Octavia.Listener.key (l : Octavia.Listener) : Str :=
  getListenerKey l.listenerId (l.adminStateUp.getD true)

/-- The key under which a sync writes a pool. -/
def Octavia.Pool.key (pool : Octavia.Pool) : Str :=
  getPoolKey pool.poolId (pool.adminStateUp.getD true)

/-- A member as a sync writes it, with the VIP subnet when it has none of its own. -/
def memberData (env : Env) (lb : Octavia.LoadBalancer) (member : Octavia.Member) :
    Except Exc MemberData := do
  let subnet ← memberSubnet env member.poolId member.address
    (Driver.withVipSubnet lb member).subnetId
  return { id := member.memberId, ip := member.address, port := Str.ofNat member.protocolPort
           subnet }

/-- And when it writes the members of a pool: the values written are computed from keys read
earlier. -/
def KeepsMembers (env : Env) (lb : Octavia.LoadBalancer) (pool : Octavia.Pool)
    (I : Dict Str Str → Prop) : Prop :=
  ∀ m ∈ pool.members.getD [], ∀ d, memberData env lb m = .ok d → ∀ read e value, I read →
    updatePoolData d.text (read.get? pool.key) = some value → I e → I (e.set pool.key value)

/-- And when it writes the pool. -/
structure KeepsPool (env : Env) (lb : Octavia.LoadBalancer) (pool : Octavia.Pool)
    (I : Dict Str Str → Prop) : Prop where
  write : ∀ info, getPoolRequestInfo pool = .ok info → ∀ up, info.adminStateUp = some up →
    ∀ read e, I read → I e → I (e.update (prepareExternalIds info up read))
  member : KeepsMembers env lb pool I

theorem keepsRow_poolSync (info : PoolInfo) (lb : LoadBalancer)
    (hset : lb.uuid = u → ∀ up, info.adminStateUp = some up → ∀ read e, I read → I e →
      I (e.update (prepareExternalIds info up read))) :
    KeepsRow u I (poolSync info lb) fun _ => True := by
  rw [poolSync]
  split
  · exact .throw _
  · next up hup =>
      refine .bind (keepsRow_readLb lb) fun row hrow =>
        .tryCatch (keepsRow_executeCommands fun c hc => ?_) fun _ => .pure trivial
      rcases List.mem_cons.mp hc with rfl | hc
      · exact fun hu e he => hset hu up hup _ e (hrow.2 hu) he
      · split at hc
        · split at hc
          · rw [List.mem_singleton.mp hc]
            trivial
          · cases hc
        · cases hc

/-- What a sync does to a member once it is in its pool's value. -/
theorem keepsRow_memberLinks (hI : IgnoresStatuses I) (member : MemberInfo) (lb : LoadBalancer) :
    KeepsRow u I (match member.subnetId with
      | none => throw .keyError
      | some subnetId => do
          updateLbToLsAssociation env lb { subnetId := some subnetId, isSync := true }
          match ← findRelatedLr env subnetId with
          | none => pure ()
          | some lr => syncLbToLrAssociation env lb lr
          updateExternalIdsMemberStatus (some lb) member.id (some NO_MONITOR) : Nbctl Unit)
      fun _ => True := by
  split
  · exact .throw _
  · refine .bind (keepsRow_of_uses ((associates_updateLbToLsAssociation env lb _).keepsKeys
      hI.toIgnoresPeripheral)) fun _ _ =>
        .bind (keepsRow_of_uses (uses_findRelatedLr env _)) fun lr _ => ?_
    split
    · exact keepsRow_of_uses (keepsKeys_updateExternalIdsMemberStatus hI lb _ _)
    · refine .bind (keepsRow_of_uses ((associates_syncLbToLrAssociation env lb _).keepsKeys
        hI.toIgnoresPeripheral)) fun _ _ =>
          keepsRow_of_uses (keepsKeys_updateExternalIdsMemberStatus hI lb _ _)

theorem keepsRow_memberSync (hI : IgnoresStatuses I) (member : MemberInfo) (lb : LoadBalancer)
    (poolKey : Str) (hset : lb.uuid = u → ∀ text, getMemberInfo member = .ok text →
      ∀ read e value, I read → updatePoolData text (read.get? poolKey) = some value → I e →
        I (e.set poolKey value)) :
    KeepsRow u I (memberSync env member lb poolKey) fun _ => True := by
  refine .bind (keepsRow_readLb lb) fun row hrow =>
    .bind (R := fun text => getMemberInfo member = .ok text) (.ofExcept fun _ h => h)
      fun text htext => ?_
  refine .caught ?_ fun r => ?_
  · have hkept : ∀ (refresh : List Command), (∀ c ∈ refresh, c.KeepsKeys u I) →
        KeepsRow u I (executeCommands
          ((updatePoolData text (row.externalIds.get? poolKey)).toList.map (fun value =>
            .lbUpdate lb.uuid (.setExternalIds (.single poolKey value))) ++ refresh))
          fun _ => True := by
      intro refresh hrefresh
      refine keepsRow_executeCommands fun c hc => ?_
      rcases List.mem_append.mp hc with hc | hc
      · obtain ⟨value, hvalue, rfl⟩ := List.mem_map.mp hc
        exact fun hu e he =>
          hset hu text htext _ e value (hrow.2 hu) (Option.mem_toList.mp hvalue) he
      · exact hrefresh c hc
    unfold memberSyncOn
    dsimp only
    split
    · exact .bind (keepsRow_refreshLbVips env lb _ true) hkept
    · exact .bind (R := fun cs => ∀ c ∈ cs, c.KeepsKeys u I) (.pure (by simp)) hkept
  · split
    · exact .pure trivial
    · exact keepsRow_memberLinks hI member lb

/-- The request for an extra member lacks the pool, so that its deletion raises. -/
theorem keepsRow_deleteExtraMembers (hI : IgnoresStatuses I) (poolId : Str) (ids : List Str)
    (present : List MemberData) :
    KeepsRow u I (deleteExtraMembers env poolId ids present) fun _ => True := by
  refine .each fun m _ => ?_
  split
  · exact .pure trivial
  · refine .bind (R := fun _ => True) (.throw _) fun _ _ => ?_
    exact keepsRow_of_uses ((peripheral_handleMemberDvr (u := 0) env _ false).peripheral.keepsKeys
      hI.toIgnoresPeripheral)

theorem keepsRow_readMembers (lb : LoadBalancer) (poolKey : Str) :
    KeepsRow u I (readMembers lb poolKey) fun _ => True :=
  keepsRow_of_uses (uses_readMembers lb poolKey)

theorem keepsKeys_addLbhcCommands (hI : IgnoresStatuses I) {row : LoadBalancer}
    {poolKey : Str} {info : HmInfo} {cs : List Command}
    (h : addLbhcCommands env row poolKey info = .ok cs) : ∀ c ∈ cs, c.KeepsKeys u I := by
  simp only [addLbhcCommands] at h
  obtain ⟨hms, -, h⟩ := Except.bind_eq_ok.mp h
  obtain ⟨vipCommands, hv, h⟩ := Except.bind_eq_ok.mp h
  obtain ⟨fipCommands, hf, h⟩ := Except.bind_eq_ok.mp h
  cases h
  intro c hc
  rcases List.mem_append.mp hc with hc | hc
  · obtain ⟨pair, hpair, hc⟩ := List.mem_flatten.mp hc
    obtain ⟨a, -, ha⟩ := Except.exists_of_mem_mapM hv hpair
    obtain ⟨text, -, ha⟩ := Except.bind_eq_ok.mp ha
    cases ha
    simp only [List.mem_cons, List.not_mem_nil, or_false] at hc
    rcases hc with rfl | rfl
    · trivial
    · exact keepsKeys_setHms hI.toIgnoresPeripheral row _
  · obtain ⟨a, -, ha⟩ := Except.exists_of_mem_mapM hf hc
    obtain ⟨text, -, ha⟩ := Except.bind_eq_ok.mp ha
    cases ha
    trivial

theorem keepsRow_hmCreate (hI : IgnoresStatuses I) (info : HmInfo) :
    KeepsRow u I (hmCreate env info) fun _ => True := by
  refine .bind (keepsRow_of_uses (uses_findOvnLbByPoolId info.poolId)) fun found _ => ?_
  rcases found with ⟨poolKey, _ | lb⟩
  · exact .pure trivial
  · refine .bind (keepsRow_readLb lb) fun row _ => ?_
    split
    · refine .bind (keepsRow_readLb lb) fun row _ => .bind (keepsRow_of_uses
        (keepsKeys_updateMemberStatuses hI lb _ _ _)) fun members _ => ?_
      have hadd : KeepsRow u I (addLbhc env lb poolKey info) fun _ => True := by
        refine .bind (keepsRow_readLb lb) fun row _ => ?_
        split
        · exact .pure trivial
        · exact .caught (.bind (R := fun cs => ∀ c ∈ cs, c.KeepsKeys u I)
            (.ofExcept fun cs hcs => keepsKeys_addLbhcCommands hI hcs)
            fun cs hcs => keepsRow_of_uses (.transaction hcs)) fun _ => .pure trivial
      refine .bind hadd fun added _ => ?_
      split
      · exact .pure trivial
      · refine .bind (keepsRow_readMembers lb poolKey) fun ms _ => .bind (keepsRow_of_uses
          (keepsKeys_monitorMembers env hI lb poolKey ms)) fun monitored _ => ?_
        split
        · exact .pure trivial
        · exact .bind (keepsRow_of_uses (uses_currentOperatingStatuses env (some lb)))
            fun _ _ => .pure trivial
    · exact .pure trivial

theorem keepsKeys_syncLbhcAddress (hI : IgnoresStatuses I) (lbhcs : List HealthCheck)
    (row : LoadBalancer) (info : HmInfo) (hms : List Str) (text : Str)
    (compared written : Dict Str Str) (listed : Bool) :
    ∀ c ∈ syncLbhcAddress lbhcs row info hms text compared written listed, c.KeepsKeys u I := by
  have hlist : ∀ c ∈ (if listed && !hms.contains info.id then [setHms row (hms ++ [info.id])]
      else []), Command.KeepsKeys u I c := by
    intro c hc
    split at hc
    · rw [List.mem_singleton.mp hc]
      exact keepsKeys_setHms hI.toIgnoresPeripheral row _
    · cases hc
  intro c hc
  unfold syncLbhcAddress at hc
  dsimp only at hc
  split at hc
  · rcases List.mem_cons.mp hc with rfl | hc
    · trivial
    · exact hlist c hc
  · rcases List.mem_append.mp hc with hc | hc
    · obtain ⟨check, -, hc⟩ := List.mem_flatMap.mp hc
      have hupdate : ∃ op, c = .hcUpdate check.uuid op := by
        simp only [List.mem_append] at hc
        rcases hc with (hc | hc) | hc
        all_goals
          split at hc
          · exact ⟨_, List.mem_singleton.mp hc⟩
          · cases hc
      obtain ⟨op, rfl⟩ := hupdate
      trivial
    · exact hlist c hc

theorem keepsKeys_syncLbhcCommands (hI : IgnoresStatuses I) {lbhcs : List HealthCheck}
    {row : LoadBalancer} {poolKey : Str} {info : HmInfo} {cs : List Command}
    (h : syncLbhcCommands env lbhcs row poolKey info = .ok cs) : ∀ c ∈ cs, c.KeepsKeys u I := by
  simp only [syncLbhcCommands] at h
  obtain ⟨hms, -, h⟩ := Except.bind_eq_ok.mp h
  obtain ⟨vipCommands, hv, h⟩ := Except.bind_eq_ok.mp h
  obtain ⟨fipCommands, hf, h⟩ := Except.bind_eq_ok.mp h
  cases h
  intro c hc
  rcases List.mem_append.mp hc with hc | hc
  · obtain ⟨l, hl, hc⟩ := List.mem_flatten.mp hc
    obtain ⟨a, -, ha⟩ := Except.exists_of_mem_mapM hv hl
    obtain ⟨text, -, ha⟩ := Except.bind_eq_ok.mp ha
    cases ha
    exact keepsKeys_syncLbhcAddress hI lbhcs row info hms text _ _ _ c hc
  · obtain ⟨l, hl, hc⟩ := List.mem_flatten.mp hc
    obtain ⟨a, -, ha⟩ := Except.exists_of_mem_mapM hf hl
    obtain ⟨text, -, ha⟩ := Except.bind_eq_ok.mp ha
    cases ha
    exact keepsKeys_syncLbhcAddress hI lbhcs row info hms text _ _ _ c hc

theorem keepsRow_hmSync (hI : IgnoresStatuses I) (info : HmInfo) (poolKey : Str) :
    KeepsRow u I (hmSync env info poolKey) fun _ => True := by
  refine .bind (.read fun nb _ => .pure (R := fun _ => True) trivial) fun found _ => ?_
  rcases found with ⟨_ | ⟨hc, hcs⟩, lb⟩
  · exact .bind (keepsRow_hmCreate hI info) fun _ _ => .pure trivial
  · cases lb with
    | none => exact .throw _
    | some lb =>
        refine .bind (keepsRow_of_uses
          (keepsKeys_updateMemberStatuses hI lb _ _ _)) fun _ _ =>
            .caught ?_ fun _ => ?_
        · refine .bind (keepsRow_readLb lb) fun row _ => ?_
          split
          · exact .throw _
          · exact .bind .get fun nb _ => .bind (R := fun cs => ∀ c ∈ cs, c.KeepsKeys u I)
              (.ofExcept fun cs hcs => keepsKeys_syncLbhcCommands hI hcs)
              fun cs hcs => keepsRow_of_uses (.transaction hcs)
        · exact .bind (keepsRow_readMembers lb poolKey) fun ms _ => .bind (keepsRow_of_uses
            (keepsKeys_monitorMembers env hI lb poolKey ms)) fun _ _ => .pure trivial

theorem keepsRow_hmPurge (lbId : Str) : KeepsRow u I (hmPurge lbId) fun _ => True := by
  have hrow : ∀ (fetched : List Nat) (lb : LoadBalancer),
      KeepsRow u I (hmPurgeRow fetched lb) fun _ => True := by
    refine fun fetched lb => .bind (keepsRow_readLb lb) fun row _ => .each fun hc _ => ?_
    split
    · exact .pure trivial
    · refine .tryCatch (keepsRow_executeCommands ?_) fun e => ?_
      · exact List.forall_mem_cons.mpr ⟨trivial, List.forall_mem_cons.mpr ⟨trivial, by simp⟩⟩
      · split
        · exact .pure trivial
        · exact .throw _
  have hrows : ∀ (lbs : List LoadBalancer) (fetched : List Nat),
      KeepsRow u I (hmPurgeRows fetched lbs) fun _ => True := by
    intro lbs
    induction lbs with
    | nil => exact fun _ => .pure trivial
    | cons lb lbs ih =>
        exact fun fetched => .bind (keepsRow_readLb lb) fun row _ =>
          .bind (keepsRow_ofExcept _) fun hms _ => .bind .get fun nb _ =>
            .bind (hrow _ lb) fun _ _ => ih _
  refine .caught (keepsRow_of_uses (uses_findOvnLbs lbId)) fun r => ?_
  split
  · exact hrows _ _
  · exact .pure trivial
  · exact .throw _

variable {lb : Octavia.LoadBalancer}

theorem keepsRow_checkNewMember (member : Octavia.Member) :
    KeepsRow u I (checkNewMember env member) fun subnet =>
      memberSubnet env member.poolId member.address member.subnetId = .ok subnet := by
  refine .bind (keepsRow_ofExcept _) fun _ _ => ?_
  have hdiffers : KeepsRow u I (ipVersionDiffers env member.poolId member.address)
      fun _ => True := by
    refine .bind (keepsRow_of_uses (uses_findOvnLbByPoolId _)) fun found _ => ?_
    rcases found with ⟨poolKey, _ | lb⟩
    · exact .pure trivial
    · exact keepsRow_ofExcept _
  refine .bind hdiffers fun differs _ => ?_
  split
  · exact .bind (R := fun _ => True) (.throw _) fun _ _ => .ofExcept fun _ h => h
  · exact .ofExcept fun _ h => h

@[simp] theorem withVipSubnet_poolId (member : Octavia.Member) :
    (Driver.withVipSubnet lb member).poolId = member.poolId := by
  unfold Driver.withVipSubnet
  split <;> rfl

@[simp] theorem withVipSubnet_address (member : Octavia.Member) :
    (Driver.withVipSubnet lb member).address = member.address := by
  unfold Driver.withVipSubnet
  split <;> rfl

@[simp] theorem withVipSubnet_memberId (member : Octavia.Member) :
    (Driver.withVipSubnet lb member).memberId = member.memberId := by
  unfold Driver.withVipSubnet
  split <;> rfl

@[simp] theorem withVipSubnet_protocolPort (member : Octavia.Member) :
    (Driver.withVipSubnet lb member).protocolPort = member.protocolPort := by
  unfold Driver.withVipSubnet
  split <;> rfl

/-- What a sync asks for a member is the member's data. -/
theorem keepsRow_memberInfo (member : Octavia.Member) :
    KeepsRow u I (getMemberRequestInfo env (Driver.withVipSubnet lb member)) fun info =>
      ∃ d, memberData env lb member = .ok d ∧ getMemberInfo info = .ok d.text ∧
        info.subnetId = some d.subnet := by
  refine .bind (keepsRow_checkNewMember _) fun subnet hsubnet => .pure ?_
  simp only [withVipSubnet_poolId, withVipSubnet_address] at hsubnet
  refine ⟨{ id := member.memberId, ip := member.address, port := Str.ofNat member.protocolPort
            subnet }, ?_, ?_, rfl⟩
  · rw [memberData, hsubnet]
    rfl
  · simp [getMemberInfo, memberInfoOf, MemberData.text]

theorem keepsRow_ensureMember (hI : IgnoresStatuses I) (ovnLb : LoadBalancer) (poolKey : Str)
    (member : Octavia.Member) (hset : ovnLb.uuid = u → ∀ d, memberData env lb member = .ok d →
      ∀ read e value, I read → updatePoolData d.text (read.get? poolKey) = some value → I e →
        I (e.set poolKey value)) :
    KeepsRow u I (do
      let info ← getMemberRequestInfo env (Driver.withVipSubnet lb member)
      memberSync env info ovnLb poolKey : Nbctl Unit) fun _ => True := by
  refine .bind (keepsRow_memberInfo member) fun info hinfo => ?_
  obtain ⟨d, hd, htext, -⟩ := hinfo
  refine keepsRow_memberSync hI info ovnLb poolKey fun hu text ht => ?_
  rw [htext] at ht
  cases ht
  exact hset hu d hd

theorem keepsRow_extraMembers (hI : IgnoresStatuses I) (ovnLb : LoadBalancer)
    (poolId poolKey : Str) (ids : List Str) :
    KeepsRow u I (do
      let row ← readLb ovnLb
      let present ← Prog.ofExcept (getMembersInOvnLb row.externalIds poolKey)
      deleteExtraMembers env poolId ids present : Nbctl Unit) fun _ => True :=
  .bind (keepsRow_readLb ovnLb) fun _ _ => .bind (keepsRow_ofExcept _) fun present _ =>
    keepsRow_deleteExtraMembers hI poolId ids present

theorem keepsRow_ensureMembers (hI : IgnoresStatuses I) (ovnLb : LoadBalancer)
    (poolId poolKey : Str) (members : List Octavia.Member)
    (hset : ovnLb.uuid = u → ∀ m ∈ members, ∀ d, memberData env lb m = .ok d →
      ∀ read e value, I read → updatePoolData d.text (read.get? poolKey) = some value → I e →
        I (e.set poolKey value)) :
    KeepsRow u I (ensureMembers env lb ovnLb poolId poolKey members) fun _ => True :=
  .bind (.each fun m hm => keepsRow_ensureMember hI ovnLb poolKey m fun hu => hset hu m hm)
    fun _ _ => keepsRow_extraMembers hI ovnLb poolId poolKey _

theorem keepsRow_ensureHm (hI : IgnoresStatuses I) (hm : Option Octavia.HealthMonitor)
    (poolKey : Str) :
    KeepsRow u I (match hm with
      | none => pure ()
      | some hm => do
          let hmInfo ← Prog.ofExcept (getHealthmonitorRequestInfo env hm)
          hmSync env hmInfo poolKey : Nbctl Unit) fun _ => True := by
  split
  · exact .pure trivial
  · exact .bind (keepsRow_ofExcept _) fun hmInfo _ => keepsRow_hmSync hI hmInfo _

theorem getListenerRequestInfo_ok {listener : Octavia.Listener} {info : ListenerInfo}
    (h : getListenerRequestInfo listener = .ok info) :
    info.id = listener.listenerId ∧ info.adminStateUp = some (listener.adminStateUp.getD true) ∧
      info.protocolPort = listener.protocolPort ∧
      info.defaultPoolId = some listener.defaultPoolId := by
  obtain ⟨protocol, -, h⟩ := Except.bind_eq_ok.mp h
  obtain ⟨_, -, h⟩ := Except.bind_eq_ok.mp h
  cases h
  exact ⟨rfl, rfl, rfl, rfl⟩

theorem getPoolRequestInfo_ok {pool : Octavia.Pool} {info : PoolInfo}
    (h : getPoolRequestInfo pool = .ok info) :
    info.id = pool.poolId ∧ info.adminStateUp = some (pool.adminStateUp.getD true) ∧
      info.listenerId = pool.listenerId := by
  obtain ⟨protocol, -, h⟩ := Except.bind_eq_ok.mp h
  obtain ⟨_, -, h⟩ := Except.bind_eq_ok.mp h
  obtain ⟨_, -, h⟩ := Except.bind_eq_ok.mp h
  cases h
  exact ⟨rfl, rfl, rfl⟩

theorem getPoolRequestInfo_key {pool : Octavia.Pool} {info : PoolInfo}
    (h : getPoolRequestInfo pool = .ok info) :
    getPoolKey info.id (info.adminStateUp.getD true) = pool.key := by
  obtain ⟨hid, hup, -⟩ := getPoolRequestInfo_ok h
  rw [hid, hup]
  rfl

/-- What a sync does to a pool once its key is written. -/
theorem keepsRow_ensurePoolRest (hI : IgnoresStatuses I) (ovnLb : LoadBalancer)
    {pool : Octavia.Pool} (hp : ovnLb.uuid = u → KeepsMembers env lb pool I) {info : PoolInfo}
    (hinfo : getPoolRequestInfo pool = .ok info) :
    KeepsRow u I (do
      let poolKey := getPoolKey info.id (info.adminStateUp.getD true)
      match pool.members with
      | none => pure ()
      | some members => ensureMembers env lb ovnLb info.id poolKey members
      match pool.healthmonitor with
      | none => pure ()
      | some hm =>
          let hmInfo ← Prog.ofExcept (getHealthmonitorRequestInfo env hm)
          hmSync env hmInfo poolKey : Nbctl Unit) fun _ => True := by
  rw [getPoolRequestInfo_key hinfo]
  dsimp only
  split
  · exact keepsRow_ensureHm hI pool.healthmonitor pool.key
  · next members hmembers =>
      refine .bind (keepsRow_ensureMembers hI ovnLb info.id _ members fun hu m hm => ?_)
        fun _ _ => keepsRow_ensureHm hI pool.healthmonitor pool.key
      exact hp hu m (by rwa [hmembers])

theorem keepsRow_ensurePool (hI : IgnoresStatuses I) (ovnLb : LoadBalancer) (pool : Octavia.Pool)
    (hp : ovnLb.uuid = u → KeepsPool env lb pool I) :
    KeepsRow u I (ensurePool env lb ovnLb pool) fun _ => True :=
  .bind (R := fun info => getPoolRequestInfo pool = .ok info) (.ofExcept fun _ h => h)
    fun info hinfo => .bind (keepsRow_poolSync info ovnLb fun hu => (hp hu).write info hinfo)
      fun _ _ => keepsRow_ensurePoolRest hI ovnLb (fun hu => (hp hu).member) hinfo

theorem keepsRow_ensureListener (ovnLb : LoadBalancer) (listener : Octavia.Listener)
    (hl : ovnLb.uuid = u → KeepsListener listener I) :
    KeepsRow u I (ensureListener env ovnLb listener) fun _ => True :=
  .bind (R := fun info => getListenerRequestInfo listener = .ok info) (.ofExcept fun _ h => h)
    fun info hinfo => keepsRow_listenerSync env info ovnLb fun hu => hl hu info hinfo

/-- What a sync does to one row once its objects are synced. -/
theorem keepsRow_ensureRest (ovnLb : LoadBalancer) :
    KeepsRow u I (do
      hmPurge lb.loadbalancerId
      let status ← currentOperatingStatuses env (some ovnLb)
      Prog.ofExcept (deleteDisabledFromStatus status) : Nbctl Status) fun _ => True :=
  .bind (keepsRow_hmPurge lb.loadbalancerId) fun _ _ =>
    .bind (keepsRow_of_uses (uses_currentOperatingStatuses env (some ovnLb))) fun _ _ =>
      keepsRow_ofExcept _

/-- What holds of the keys is kept whatever object of the tree a sync writes. -/
structure KeepsTree (env : Env) (lb : Octavia.LoadBalancer) (I : Dict Str Str → Prop) : Prop where
  vip : KeepsVip (getLoadbalancerRequestInfo lb) I
  listener : ∀ l ∈ lb.listeners.getD [], KeepsListener l I
  pool : ∀ pool ∈ lb.pools.getD [], KeepsPool env lb pool I

/-- A row keeps what holds of its keys over its own sync and over that of any other row. -/
theorem keepsRow_ensureRow (hI : IgnoresStatuses I) (ovnLb : LoadBalancer)
    (ht : ovnLb.uuid = u → KeepsTree env lb I) :
    KeepsRow u I (ensureRow env lb ovnLb) fun _ => True :=
  .bind (keepsRow_lbSync hI.toIgnoresPeripheral ovnLb fun hu => (ht hu).vip) fun _ _ =>
    .bind (.each fun l hl => keepsRow_ensureListener ovnLb l fun hu => (ht hu).listener l hl)
      fun _ _ => .bind (.each fun p hp => keepsRow_ensurePool hI ovnLb p fun hu =>
        (ht hu).pool p hp) fun _ _ => keepsRow_ensureRest ovnLb

variable {J : Dict Str Str → Prop} {ovnLb : LoadBalancer} {s s' : Nb}

/-- What the sync of one pool brings about, and those of the others keep, holds of a
synced row. -/
theorem rowWith_ensureRow {pool : Octavia.Pool} {status : Status} (hI : IgnoresStatuses I)
    (ht : KeepsTree env lb I) (hJ : IgnoresStatuses J)
    (hothers : ∀ q ∈ lb.pools.getD [], q ≠ pool → KeepsPool env lb q J)
    (hm : pool ∈ lb.pools.getD [])
    (hround : ∀ t t', t.RowWith ovnLb.uuid I →
      (ensurePool env lb ovnLb pool).run Nb.apply t = (.ok (), t') → t'.RowWith ovnLb.uuid J)
    (h : s.RowWith ovnLb.uuid I)
    (hrun : (ensureRow env lb ovnLb).run Nb.apply s = (.ok status, s')) :
    s'.RowWith ovnLb.uuid J := by
  obtain ⟨_, t, hlb, hrun⟩ := Prog.run_bind_ok hrun
  obtain ⟨_, t₁, hlisteners, hrun⟩ := Prog.run_bind_ok hrun
  obtain ⟨_, t₂, hpools, hrun⟩ := Prog.run_bind_ok hrun
  have hvip := h.after (keepsRow_lbSync hI.toIgnoresPeripheral ovnLb fun _ => ht.vip) hlb
  have hlis := hvip.after
    (.each fun l hl => keepsRow_ensureListener ovnLb l fun _ => ht.listener l hl) hlisteners
  have hpool : t₂.RowWith ovnLb.uuid J :=
    Prog.Keeps.each_reaches (J := fun nb => nb.RowWith ovnLb.uuid J)
      (fun p hp => keepsRow_ensurePool hI ovnLb p fun _ => ht.pool p hp)
      (fun p hp hne => keepsRow_ensurePool hJ ovnLb p fun _ => hothers p hp hne)
      (.inr hm) hround hlis hpools
  exact hpool.after (keepsRow_ensureRest ovnLb) hrun

/-- What the sync of one row brings about, and those of the others keep, holds when the sync of
the load balancer ends. -/
theorem rowWith_ensureLoadbalancer {row : LoadBalancer} {statuses : List Status}
    (hw : s.WellFormed) (hI : IgnoresStatuses I) (ht : KeepsTree env lb I)
    (hJ : IgnoresStatuses J) (hm : row ∈ s.lbsNamed lb.loadbalancerId)
    (hround : ∀ t status t', t.RowWith row.uuid I →
      (ensureRow env lb row).run Nb.apply t = (.ok status, t') → t'.RowWith row.uuid J)
    (h : s.RowWith row.uuid I)
    (hrun : (ensureLoadbalancer env lb).run Nb.apply s = (.ok statuses, s')) :
    s'.RowWith row.uuid J := by
  have hne : s.lbsNamed lb.loadbalancerId ≠ [] := List.ne_nil_of_mem hm
  have hfound : ∀ r ∈ s.lbsNamed lb.loadbalancerId, s.lb? r.uuid = some r :=
    fun r hr => hw.lb?_of_mem (List.mem_of_mem_filter hr)
  rw [ensureLoadbalancer, Prog.run_bind, Prog.run_attempt, run_findOvnLbs, if_neg hne] at hrun
  refine Prog.Keeps.mapEach_reaches (J := fun nb => nb.RowWith row.uuid J)
    (fun r _ => keepsRow_ensureRow hI r fun _ => ht)
    (fun r hr hneq => keepsRow_ensureRow hJ r fun hu => ?_) (.inr hm) hround h hrun
  have hsame := hfound r hr
  rw [hu, hfound row hm, Option.some.injEq] at hsame
  exact absurd hsame.symm hneq

end Objects

section Writing
variable {env : Env} {I J : Dict Str Str → Prop} {u : Nat} {nb : Nb} {lb row : LoadBalancer}

/-- The updates of a row that leave its keys alone. -/
def LbOp.SparesKeys : LbOp → Prop
  | .setExternalIds _ | .removeExternalId _ => False
  | _ => True

theorem LbOp.SparesKeys.keepsKeys {op : LbOp} (h : op.SparesKeys) (v : Nat) :
    (Command.lbUpdate v op).KeepsKeys u I := by
  cases op with
  | setExternalIds | removeExternalId => exact h.elim
  | _ => trivial

theorem Nb.RowWith.imp (h : nb.RowWith u I) (hij : ∀ e, I e → J e) : nb.RowWith u J := by
  obtain ⟨row, hrow, hi⟩ := h
  exact ⟨row, hrow, hij _ hi⟩

theorem Nb.RowWith.and (h : nb.RowWith u I) (h' : nb.RowWith u J) :
    nb.RowWith u fun e => I e ∧ J e := by
  obtain ⟨row, hrow, hi⟩ := h
  obtain ⟨row', hrow', hj⟩ := h'
  rw [hrow] at hrow'
  cases hrow'
  exact ⟨row, hrow, hi, hj⟩

theorem Nb.RowWith.apply_update (h : nb.RowWith u I) (op : LbOp) :
    Nb.apply (.lbUpdate u op) nb = .ok (nb.updateLb u (LbOp.apply · op)) := by
  obtain ⟨row, hrow, -⟩ := h
  simp only [Nb.apply, hrow]

/-- A transaction of updates of a row that is there goes through. -/
theorem Nb.RowWith.transact_updates (h : nb.RowWith u I) {ops : List LbOp}
    (hops : ∀ op ∈ ops, op.SparesKeys) :
    ∃ nb', Prog.transact Nb.apply (ops.map (.lbUpdate u)) nb = .ok nb' ∧ nb'.RowWith u I := by
  induction ops generalizing nb with
  | nil => exact ⟨nb, rfl, h⟩
  | cons op ops ih =>
      rw [List.forall_mem_cons] at hops
      have happly := h.apply_update op
      obtain ⟨nb', hrest, hr⟩ := ih ((hops.1.keepsKeys u).rowWith h happly) hops.2
      refine ⟨nb', ?_, hr⟩
      rw [List.map_cons, Prog.transact_cons, happly]
      exact hrest

theorem Nb.RowWith.run_spares (h : nb.RowWith u I) {ops : List LbOp}
    (hops : ∀ op ∈ ops, op.SparesKeys) : ∃ nb',
    (executeCommands (ops.map (.lbUpdate u))).run Nb.apply nb = (.ok (), nb') ∧
      nb'.RowWith u I := by
  obtain ⟨nb', hrest, hr⟩ := h.transact_updates hops
  exact ⟨nb', by rw [run_executeCommands, hrest], hr⟩

theorem Nb.RowWith.setExternalIds (h : nb.RowWith u I) {kv : Dict Str Str}
    (hkv : ∀ e, I e → J (e.update kv)) :
    (nb.updateLb u (LbOp.apply · (.setExternalIds kv))).RowWith u J := by
  obtain ⟨row, hrow, hi⟩ := h
  refine ⟨LbOp.apply row (.setExternalIds kv), ?_, hkv _ hi⟩
  rw [Nb.lb?_updateLb (f := (LbOp.apply · (.setExternalIds kv))) fun _ => rfl, hrow,
    Option.map_some, if_pos (Nb.lb?_eq_some hrow).2]

/-- A transaction that writes keys of the row first. -/
theorem Nb.RowWith.run_update (h : nb.RowWith u I) {kv : Dict Str Str}
    (hkv : ∀ e, I e → J (e.update kv)) {ops : List LbOp} (hops : ∀ op ∈ ops, op.SparesKeys) :
    ∃ nb', (executeCommands (.lbUpdate u (.setExternalIds kv) :: ops.map (.lbUpdate u))).run
      Nb.apply nb = (.ok (), nb') ∧ nb'.RowWith u J := by
  obtain ⟨nb', hrest, hr⟩ := (h.setExternalIds hkv).transact_updates hops
  refine ⟨nb', run_executeCommands_ok ?_, hr⟩
  rw [Prog.transact_cons, h.apply_update]
  exact hrest

/-- A refresh with a traffic map leaves the keys alone. -/
theorem run_refresh_ok (hrow : nb.lb? lb.uuid = some row) {e vips : Dict Str Str}
    (hv : frameVipIps env row.externalIds e = .ok vips) (isSync : Bool) :
    ∃ ops : List LbOp, (refreshLbVips env lb e isSync).run Nb.apply nb =
      (.ok (ops.map (.lbUpdate lb.uuid)), nb) ∧ ∀ op ∈ ops, op.SparesKeys := by
  rw [run_refreshLbVips, live_of_lb? hrow, hv, Except.map]
  split
  · exact ⟨[], rfl, nofun⟩
  · refine ⟨[.clearVips, .setVips vips], rfl, fun op hop => ?_⟩
    rw [List.mem_cons, List.mem_singleton] at hop
    obtain rfl | rfl := hop <;> trivial

theorem run_tryCatch_quiet (p : Nbctl Unit) (nb : Nb) :
    ((p.tryCatch fun _ => pure ()).run Nb.apply nb).2 = (p.run Nb.apply nb).2 := by
  rw [Prog.run_tryCatch]
  rcases p.run Nb.apply nb with ⟨_ | _, t⟩
  · rfl
  · rfl

/-- A listener that is synced gets its key, on a row whose keys have a traffic map with it. -/
theorem rowWith_listenerSync (env : Env) {info : ListenerInfo} {k v : Str}
    (hk : getListenerKey info.id (info.adminStateUp.getD false) = k)
    (hv : makeListenerKeyValue info.protocolPort (defaultPoolKey info) = v)
    (h : nb.RowWith lb.uuid I)
    (hframe : ∀ e, I e → ∃ vips, frameVipIps env e (e.set k v) = .ok vips)
    (hset : ∀ e, I e → J (e.set k v)) :
    ((listenerSync env info lb).run Nb.apply nb).2.RowWith lb.uuid J := by
  obtain ⟨row, hrow, hi⟩ := h
  have hu := (Nb.lb?_eq_some hrow).2
  obtain ⟨vips, hvips⟩ := hframe _ hi
  obtain ⟨refresh, hrun, hrefresh⟩ := run_refresh_ok hrow hvips true
  simp only [listenerSync, Prog.run_bind, run_readLb, live_of_lb? hrow, Prog.run_attempt, hk, hv,
    hrun]
  rw [run_tryCatch_quiet]
  have hprotocol : ∃ ops : List LbOp, syncProtocol row info = ops.map (.lbUpdate lb.uuid) ∧
      ∀ op ∈ ops, op.SparesKeys := by
    unfold syncProtocol
    split
    · exact ⟨[], rfl, nofun⟩
    · refine ⟨[.setProtocol (some info.protocol)], by rw [hu]; rfl, fun op hop => ?_⟩
      rw [List.mem_singleton.mp hop]
      trivial
  obtain ⟨ops, hops, hspares⟩ := hprotocol
  have hall : ∀ op ∈ ops ++ refresh, op.SparesKeys := fun op hop =>
    (List.mem_append.mp hop).elim (hspares op) (hrefresh op)
  rw [List.append_assoc, hops, ← List.map_append]
  unfold syncListenerKey
  split
  · next hhas =>
      have hsame : nb.RowWith lb.uuid J := ⟨row, hrow, Dict.set_of_get? hhas ▸ hset _ hi⟩
      obtain ⟨nb', hrun, hr⟩ := hsame.run_spares hall
      rw [List.nil_append, hrun]
      exact hr
  · rw [hu]
    have hwrite : ∀ e, I e → J (e.update (.single k v)) := hset
    obtain ⟨nb', hrun, hr⟩ := Nb.RowWith.run_update ⟨row, hrow, hi⟩ hwrite hall
    rw [List.singleton_append, hrun]
    exact hr

theorem mem_keys_prepareExternalIds (info : PoolInfo) (up : Bool) (e : Dict Str Str) :
    getPoolKey info.id up ∈ (prepareExternalIds info up e).keys := by
  unfold prepareExternalIds
  dsimp only
  split
  · exact (Dict.mem_keys_set _ _ _ _).mpr (.inl rfl)
  · split
    · exact (Dict.mem_keys_set _ _ _ _).mpr (.inl rfl)
    · exact (Dict.mem_keys_set _ _ _ _).mpr (.inr ((Dict.mem_keys_set _ _ _ _).mpr (.inl rfl)))

/-- A synced pool is written with its listener. -/
theorem rowWith_poolSync {info : PoolInfo} {up : Bool} (h : nb.RowWith lb.uuid I)
    (hup : info.adminStateUp = some up)
    (hset : ∀ e, I e → J (e.update (prepareExternalIds info up e))) :
    ((poolSync info lb).run Nb.apply nb).2.RowWith lb.uuid J := by
  obtain ⟨row, hrow, hi⟩ := h
  have hu := (Nb.lb?_eq_some hrow).2
  simp only [poolSync, hup, Prog.run_bind, run_readLb, live_of_lb? hrow]
  rw [run_tryCatch_quiet]
  have hexact : nb.RowWith lb.uuid (· = row.externalIds) := ⟨row, hrow, rfl⟩
  have hkv : ∀ e, e = row.externalIds → J (e.update (prepareExternalIds info up row.externalIds)) :=
    fun e he => by rw [he]; exact hset _ hi
  have hrun : ∀ (ops : List LbOp), (∀ op ∈ ops, op.SparesKeys) →
      ((executeCommands (.lbUpdate lb.uuid (.setExternalIds
        (prepareExternalIds info up row.externalIds)) :: ops.map (.lbUpdate lb.uuid))).run
          Nb.apply nb).2.RowWith lb.uuid J := by
    intro ops hops
    obtain ⟨nb', hrun, hr⟩ := hexact.run_update hkv hops
    rw [hrun]
    exact hr
  split
  · split
    · rw [setAffinity, hu]
      refine hrun [_] fun op hop => ?_
      rw [List.mem_singleton.mp hop]
      trivial
    · exact hrun [] (List.forall_mem_nil _)
  · exact hrun [] (List.forall_mem_nil _)

end Writing

section Grown
variable {env : Env} {lb : Octavia.LoadBalancer} {I : Dict Str Str → Prop}

/-- What holds of the keys is kept whatever is written, and when a fixed key goes. -/
structure KeptByWrites (I : Dict Str Str → Prop) : Prop where
  update : ∀ e kv, I e → I (e.update kv)
  erase : ∀ k ∈ baseKeys, ∀ e, I e → I (e.erase k)

theorem KeptByWrites.ignoresBase (hI : KeptByWrites I) : IgnoresBase I where
  set := fun k _ v e he => hI.update e (.single k v) he
  erase := hI.erase

theorem KeptByWrites.ignoresStatuses (hI : KeptByWrites I) : IgnoresStatuses I :=
  hI.ignoresBase.ignoresStatuses

theorem KeptByWrites.keepsTree (hI : KeptByWrites I) : KeepsTree env lb I where
  vip := hI.ignoresBase.keepsVip _
  listener := fun _ _ _ _ e he => hI.update e (.single _ _) he
  pool := fun _ _ => {
    write := fun _ _ _ _ _ e _ he => hI.update e _ he
    member := fun _ _ _ _ _ e _ _ _ he => hI.update e (.single _ _) he }

theorem keptByWrites_mem {k : Str} (hk : k ∉ baseKeys) :
    KeptByWrites fun e => k ∈ e.keys where
  update := by
    intro e kv he
    rw [Dict.keys_update]
    exact List.mem_append_left _ he
  erase := by
    intro j hj e he
    rw [Dict.mem_keys_erase]
    exact ⟨he, fun hkj => hk (hkj ▸ hj)⟩

end Grown

end OvnOctavia

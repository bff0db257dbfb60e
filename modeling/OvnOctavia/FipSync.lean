import OvnOctavia.FipRequests
import OvnOctavia.SyncedKeys

/-!
The sync of the floating IP of a VIP. It is handed on to the rows of the load balancer that the
name of the switch port tells, when Neutron and the port agree on it.
-/

namespace OvnOctavia

/-- A load balancer as the library of Octavia hands it out. -/
structure Octavia.ProvidedLoadBalancer where
  tree : Octavia.LoadBalancer
  vipPortId : Option Str := none

/-- What a sync asks of Octavia and Neutron. The listing comes page by page, so that it may
fail after some of the load balancers. -/
structure SyncSource where
  lbs : List Str
  listing : Except Exc Unit
  getLoadbalancer : Str → Except Exc (Option Octavia.ProvidedLoadBalancer)
  /-- The floating IPs of a port. -/
  ips : Str → Except Exc (List Str)

section Sync
variable (env : Env) (source : SyncSource)

def getLsp (nb : Nb) (portId networkId : Str) : Option LogicalSwitchPort :=
  match nb.switch? (.name (ovnName networkId)) with
  | none => none
  | some ls => ls.ports.find? fun port => Str.contains portId port.name

def getFipFromVip (vipPortId : Str) : Except Exc (Option (List Str)) := do
  env.neutronClient
  match source.ips vipPortId with
  | .ok fips => return some fips
  | .error .httpException | .error .resourceNotFound => return none
  | .error e => throw e

def fipSync (lb : Octavia.ProvidedLoadBalancer) : Nbctl Unit := do
  match lb.vipPortId, lb.tree.vipNetworkId with
  | some (c :: portId), some (d :: networkId) =>
      let fips ← Prog.ofExcept (getFipFromVip env source (c :: portId))
      let nb ← Prog.get
      let vipLsp := getLsp nb (c :: portId) (d :: networkId)
      match fips, vipLsp with
      | some (neutronFip :: _), some vipLsp =>
          if vipLsp.externalIds.get? ovnPortFipExtIdKey = some neutronFip then
            let _ ← vipPortUpdateHandler env vipLsp neutronFip .sync
          else pure ()
      | _, _ => pure ()
  | _, _ => pure ()

end Sync

section Continuing
variable {nb s s' : Nb} {c : Command} {row : LoadBalancer}

/-- A command hands out new rows under the next identifier only, and renames none. -/
theorem Nb.apply_named (ha : Nb.apply c nb = .ok s) {row' : LoadBalancer}
    (hm : row' ∈ s.loadBalancers) : row'.uuid = nb.nextUuid ∨
      ∃ row ∈ nb.loadBalancers, row.uuid = row'.uuid ∧ row.name = row'.name := by
  have hupdate : ∀ {u : Nat} {op : LbOp}, row' ∈ (nb.updateLb u (LbOp.apply · op)).loadBalancers →
      ∃ row ∈ nb.loadBalancers, row.uuid = row'.uuid ∧ row.name = row'.name := by
    intro u op hm
    obtain ⟨row, hrow, rfl⟩ := List.mem_map.mp hm
    refine ⟨row, hrow, ?_⟩
    split
    · exact ⟨(LbOp.uuid_apply row op).symm, (LbOp.name_apply row op).symm⟩
    · exact ⟨rfl, rfl⟩
  have hsame : row' ∈ nb.loadBalancers →
      ∃ row ∈ nb.loadBalancers, row.uuid = row'.uuid ∧ row.name = row'.name :=
    fun hm => ⟨row', hm, rfl, rfl⟩
  cases c with
  | lbCreate name protocol externalIds fields =>
      cases ha
      rcases List.mem_append.mp hm with hm | hm
      · exact .inr (hsame hm)
      · rw [List.mem_singleton.mp hm]
        exact .inl rfl
  | portDelete id =>
      cases ha
      exact .inr (hsame hm)
  | lbUpdate | hcCreate =>
      simp only [Nb.apply] at ha
      split at ha <;> cases ha
      exact .inr (hupdate hm)
  | lbDel u =>
      simp only [Nb.apply] at ha
      split at ha <;> cases ha
      exact .inr (hsame (List.mem_of_mem_filter hm))
  | lsLbDel | lrLbDel =>
      simp only [Nb.apply] at ha
      split at ha
      · split at ha
        · cases ha
          exact .inr (hsame hm)
        · cases ha
      · cases ha
  | hcUpdate | hcDestroy | lsLbAdd | lrLbAdd | natClearExternalMac | natClearLogicalPort =>
      simp only [Nb.apply] at ha
      split at ha <;> cases ha
      exact .inr (hsame hm)

/-- What any run leaves: the rows that were there keep their names, and the switches their
ports. -/
structure Nb.Continues (nb s : Nb) : Prop where
  wellFormed : s.WellFormed
  next : nb.nextUuid ≤ s.nextUuid
  topology : nb.SameTopology s
  names : ∀ row' ∈ s.loadBalancers, row'.uuid < nb.nextUuid →
    ∃ row, nb.lb? row'.uuid = some row ∧ row.name = row'.name

namespace Nb.Continues

theorem refl (hw : nb.WellFormed) : nb.Continues nb :=
  ⟨hw, Nat.le_refl _, .refl nb, fun row' hm _ => ⟨row', hw.lb?_of_mem hm, rfl⟩⟩

theorem apply (h : nb.Continues s) (ha : Nb.apply c s = .ok s') : nb.Continues s' := by
  obtain ⟨hw, hnext⟩ := h.wellFormed.apply ha
  refine ⟨hw, h.next.trans hnext, h.topology.trans (Nb.sameTopology_apply ha), ?_⟩
  intro row' hm hlt
  obtain hu | ⟨row, hrow, hu, hn⟩ := Nb.apply_named ha hm
  · have := h.next
    omega
  · rw [← hu, ← hn]
    exact h.names row hrow (hu ▸ hlt)

theorem run {α : Type} (h : nb.Continues s) (p : Nbctl α) : nb.Continues (p.run Nb.apply s).2 :=
  p.uses_all.run_keeps (I := nb.Continues) (fun _ _ _ _ hs ha => hs.apply ha) h

theorem after {α : Type} {p : Nbctl α} {r : Except Exc α} (h : nb.Continues s)
    (hrun : p.run Nb.apply s = (r, s')) : nb.Continues s' := by
  have hs' := h.run p
  rwa [hrun] at hs'

/-- A row that was there has its name. -/
theorem name_eq (h : nb.Continues s) (hw : nb.WellFormed) (hrow : nb.lb? row.uuid = some row)
    {row' : LoadBalancer} (hrow' : s.lb? row.uuid = some row') : row'.name = row.name := by
  obtain ⟨hm, hu⟩ := Nb.lb?_eq_some hrow'
  have hlt := hw.lt_next row (Nb.lb?_eq_some hrow).1
  obtain ⟨r, hr, hn⟩ := h.names row' hm (hu ▸ hlt)
  rw [hu, hrow, Option.some.injEq] at hr
  rw [← hn, ← hr]

/-- The switch port of a VIP is where it was. -/
theorem getLsp_eq (h : nb.Continues s) (portId networkId : Str) :
    getLsp s portId networkId = getLsp nb portId networkId := by
  have hports : ∀ l l' : List LogicalSwitch, l'.map LogicalSwitch.bare = l.map LogicalSwitch.bare →
      (l'.find? (·.name = ovnName networkId)).map LogicalSwitch.ports =
        (l.find? (·.name = ovnName networkId)).map LogicalSwitch.ports := by
    intro l l' hl
    have hbare : ∀ l : List LogicalSwitch,
        (l.find? (·.name = ovnName networkId)).map LogicalSwitch.ports =
          ((l.map LogicalSwitch.bare).find? (·.name = ovnName networkId)).map
            LogicalSwitch.ports := by
      intro l
      rw [List.find?_map, Option.map_map]
      rfl
    rw [hbare l', hl, ← hbare l]
  have hfind : ∀ nb : Nb, getLsp nb portId networkId =
      ((nb.switch? (.name (ovnName networkId))).map LogicalSwitch.ports).bind
        fun ports => ports.find? fun port => Str.contains portId port.name := by
    intro nb
    rw [getLsp]
    cases nb.switch? (.name (ovnName networkId)) <;> rfl
  rw [hfind s, hfind nb]
  exact congrArg (Option.bind · _) (hports _ _ h.topology.switches)

end Nb.Continues

end Continuing

section Associating
variable {env : Env} {I J : Dict Str Str → Prop} {u : Nat} {nb nb' : Nb} {info : FipInfo}

theorem associatedFip_ok {e : Dict Str Str} {key value : Str}
    (h : associatedFip info e = .ok (key, value)) :
    key = fipKey info.additionalVipFip ∧ value = fipValue info.additionalVipFip info.vipFip e := by
  unfold associatedFip at h
  split at h
  · next hadd =>
      split at h
      · next c fips hget =>
          cases h
          simp only [hadd, fipValue, hget]
          exact ⟨rfl, trivial⟩
      · cases h
      · next hget =>
          cases h
          simp only [hadd, fipValue, hget]
          exact ⟨rfl, trivial⟩
  · next hadd =>
      cases h
      rw [Bool.not_eq_true] at hadd
      rw [hadd]
      exact ⟨rfl, rfl⟩

theorem keepsRow_copies (lb : LoadBalancer) (fip : Str) (lbhcs : List HealthCheck) :
    KeepsRow u I (Prog.each (fun hc => Prog.transaction [copyLbhc lb fip hc]) lbhcs)
      fun _ => True := by
  refine .each fun hc _ => keepsRow_of_uses (.transaction fun c hc => ?_)
  rw [List.mem_singleton.mp hc]
  trivial

/-- The keys of an association, written with its traffic map. -/
def writeFip (env : Env) (lb : LoadBalancer) (key value : Str) (present : Dict Str Str)
    (isSync needExtSet : Bool) : Nbctl Unit := do
  let refresh ← refreshLbVips env lb (present.set key value) isSync
  executeCommands ((if needExtSet then
    [.lbUpdate lb.uuid (.setExternalIds (.single key value))] else []) ++ refresh)

theorem keepsRow_writeFip {lb : LoadBalancer} {key value : Str} (present : Dict Str Str)
    (isSync needExtSet : Bool) (hset : lb.uuid = u → ∀ e, I e → I (e.set key value)) :
    KeepsRow u I (writeFip env lb key value present isSync needExtSet) fun _ => True := by
  refine .bind (keepsRow_refreshLbVips env _ _ _) fun refresh hrefresh => ?_
  refine keepsRow_executeCommands fun c hc => ?_
  rcases List.mem_append.mp hc with hc | hc
  · split at hc
    · rw [List.mem_singleton.mp hc]
      exact fun hu e he => hset hu e he
    · cases hc
  · exact hrefresh c hc

/-- A row keeps what holds of its keys over the association of a floating IP. -/
theorem keepsRow_associateFip {present : Dict Str Str}
    (hset : info.ovnLb.uuid = u → ∀ key value, associatedFip info present = .ok (key, value) →
      ∀ e, I e → I (e.set key value)) :
    KeepsRow u I (associateFip env info present) fun _ => True := by
  refine .bind (R := fun kv => associatedFip info present = .ok kv) (.ofExcept fun _ h => h)
    fun kv hkv => .bind (keepsRow_readLb _) fun row _ => ?_
  obtain ⟨key, value⟩ := kv
  refine .bind (keepsRow_of_uses (uses_healthChecksOf _)) fun lbhcs _ => ?_
  have hrest : ∀ isSync needExtSet,
      KeepsRow u I (writeFip env info.ovnLb key value present isSync needExtSet) fun _ => True :=
    fun isSync needExtSet => keepsRow_writeFip present isSync needExtSet (hset · key value hkv)
  dsimp only
  split
  · exact .bind (keepsRow_copies _ _ _) fun _ _ => hrest _ _
  · exact hrest _ _

/-- The commands of a refresh keep all keys. -/
theorem refresh_keepsKeys {lb : LoadBalancer} {e : Dict Str Str} {isSync : Bool}
    {cs : List Command} (hrun : (refreshLbVips env lb e isSync).run Nb.apply nb = (.ok cs, nb')) :
    nb' = nb ∧ ∀ c ∈ cs, ∀ u I, c.KeepsKeys u I := by
  rw [run_refreshLbVips] at hrun
  cases hframe : frameVipIps env (lb.live nb).externalIds e with
  | error e =>
      rw [hframe] at hrun
      cases hrun
  | ok vips =>
      rw [hframe, Except.map] at hrun
      split at hrun
      · cases hrun
        exact ⟨rfl, nofun⟩
      · cases hrun
        refine ⟨rfl, fun c hc u I => ?_⟩
        rw [List.mem_cons, List.mem_singleton] at hc
        obtain rfl | rfl := hc <;> trivial

/-- An association that goes through has written its keys. -/
theorem rowWith_writeFip {lb : LoadBalancer} {key value : Str} {present : Dict Str Str}
    {isSync : Bool} (h : nb.RowWith lb.uuid I)
    (hwrite : (writeFip env lb key value present isSync true).run Nb.apply nb = (.ok (), nb')) :
    nb'.RowWith lb.uuid (·.get? key = some value) := by
  obtain ⟨refresh, t, hrefresh, hrun⟩ := Prog.run_bind_ok hwrite
  obtain ⟨rfl, hkeep⟩ := refresh_keepsKeys hrefresh
  rw [if_pos rfl, List.singleton_append, run_executeCommands, Prog.transact_cons,
    h.apply_update] at hrun
  have hset : (t.updateLb lb.uuid (LbOp.apply · (.setExternalIds (.single key value)))).RowWith
      lb.uuid (·.get? key = some value) := h.setExternalIds fun e _ => by
    rw [Dict.update_single, Dict.get?_set_self]
  rcases hrest : Prog.transact Nb.apply refresh
    (t.updateLb lb.uuid (LbOp.apply · (.setExternalIds (.single key value)))) with e | s
  · simp only [Except.bind, hrest] at hrun
    cases hrun
  · simp only [Except.bind, hrest] at hrun
    cases hrun
    exact Prog.Uses.transact_keeps (C := Command.KeepsKeys lb.uuid (·.get? key = some value))
      (I := fun s => s.RowWith lb.uuid (·.get? key = some value))
      (fun _ _ _ hc hs ha => hc.rowWith hs ha) (fun c hc => hkeep c hc _ _) hset hrest

/-- A floating IP that is associated with the VIP of a row stands under its key. -/
theorem rowWith_associateFip {present : Dict Str Str} {key value : Str}
    (hkv : associatedFip info present = .ok (key, value)) (h : nb.RowWith info.ovnLb.uuid I)
    (hrun : (associateFip env info present).run Nb.apply nb = (.ok (), nb')) :
    nb'.RowWith info.ovnLb.uuid (·.get? key = some value) := by
  rw [associateFip, hkv] at hrun
  obtain ⟨_, t, hpair, hrun⟩ := Prog.run_bind_ok hrun
  cases hpair
  obtain ⟨row, t, hread, hrun⟩ := Prog.run_bind_ok hrun
  cases hread
  obtain ⟨lbhcs, t, hlbhcs, hrun⟩ := Prog.run_bind_ok hrun
  cases hlbhcs
  obtain ⟨row, hrow, hi⟩ := h
  rw [live_of_lb? hrow] at hrun
  have hrest : ∀ {s : Nb} {isSync needExtSet : Bool}, s.RowWith info.ovnLb.uuid I →
      (needExtSet = false → s.RowWith info.ovnLb.uuid (·.get? key = some value)) →
      (writeFip env info.ovnLb key value present isSync needExtSet).run Nb.apply s =
        (.ok (), nb') → nb'.RowWith info.ovnLb.uuid (·.get? key = some value) := by
    intro s isSync needExtSet hs hset hwrite
    cases needExtSet with
    | false =>
        refine (hset rfl).after (keepsRow_writeFip present isSync false fun _ e _ => ?_) hwrite
        rw [Dict.get?_set_self]
    | true => exact rowWith_writeFip hs hwrite
  have hpresent : (!(info.action = .sync && row.externalIds.get? key = some value)) = false →
      nb.RowWith info.ovnLb.uuid (·.get? key = some value) := by
    intro hset
    simp only [Bool.not_eq_false', Bool.and_eq_true, decide_eq_true_eq] at hset
    exact ⟨row, hrow, hset.2⟩
  dsimp only at hrun
  split at hrun
  · obtain ⟨_, t, hcopy, hrun⟩ := Prog.run_bind_ok hrun
    exact hrest (Nb.RowWith.after ⟨row, hrow, hi⟩ (keepsRow_copies _ _ _) hcopy)
      (fun hset => (hpresent hset).after (keepsRow_copies _ _ _) hcopy) hrun
  · exact hrest ⟨row, hrow, hi⟩ hpresent hrun

/-- What holds of the keys is kept when a floating IP is associated: the value written is
computed from keys read earlier. -/
def KeepsFip (add : Bool) (fip : Str) (I : Dict Str Str → Prop) : Prop :=
  ∀ info : FipInfo, info.additionalVipFip = add → info.vipFip = fip → ∀ read key value, I read →
    associatedFip info read = .ok (key, value) → ∀ e, I e → I (e.set key value)

theorem keepsRow_handleVipFip (hsync : info.action = .sync)
    (hset : info.ovnLb.uuid = u → KeepsFip info.additionalVipFip info.vipFip I) :
    KeepsRow u I (handleVipFip env info) fun _ => True := by
  refine .bind (keepsRow_readLb _) fun row hrow => ?_
  rw [hsync]
  exact keepsRow_associateFip fun hu key value hkv e he =>
    hset hu info rfl rfl _ key value (hrow.2 hu) hkv e he

theorem rowWith_handleVipFip (hsync : info.action = .sync) (hadd : info.additionalVipFip = false)
    (h : nb.RowWith info.ovnLb.uuid I)
    (hrun : (handleVipFip env info).run Nb.apply nb = (.ok (), nb')) :
    nb'.RowWith info.ovnLb.uuid (·.get? lbExtIdsVipFipKey = some info.vipFip) := by
  obtain ⟨row, t, hread, hrun⟩ := Prog.run_bind_ok hrun
  cases hread
  rw [hsync] at hrun
  refine rowWith_associateFip ?_ h hrun
  rw [associatedFip, hadd]
  rfl

variable {lsp : LogicalSwitchPort} {fip : Str}

/-- The load balancer that the name of a port tells, and whether of an additional VIP. -/
def toldLb (lsp : LogicalSwitchPort) : Option (Str × Bool) :=
  (lsp.externalIds.get? ovnPortNameExtIdKey).map lbOfPortName

/-- What a sync of a floating IP does to the row of one load balancer. -/
def syncFip (env : Env) (lsp : LogicalSwitchPort) (fip : Str) (add : Bool) (lb : LoadBalancer) :
    Nbctl (List FipInfo) := do
  let port ← Prog.ofExcept (env.getPort lsp.name)
  handleVipFip env
    { ovnLb := lb, vipFip := fip, vipRelated := port.fixedIps.map (·.ipAddress)
      additionalVipFip := add, action := .sync }
  return []

theorem vipPortUpdateHandler_sync {lbId : Str} {add : Bool}
    (htold : toldLb lsp = some (lbId, add)) :
    vipPortUpdateHandler env lsp fip .sync = (do
      match ← (findOvnLbs lbId).attempt with
      | .error .rowNotFound => return []
      | .error e => throw e
      | .ok ovnLbs =>
          Prog.ofExcept env.neutronClient
          let queued ← Prog.mapEach (syncFip env lsp fip add) ovnLbs
          return queued.flatten) := by
  rw [toldLb, Option.map_eq_some_iff] at htold
  obtain ⟨portName, hname, hlb⟩ := htold
  simp only [vipPortUpdateHandler, hname, hlb]
  rfl

theorem keepsRow_syncFip {add : Bool} {lb : LoadBalancer}
    (hset : lb.uuid = u → KeepsFip add fip I) :
    KeepsRow u I (syncFip env lsp fip add lb) fun _ => True :=
  .bind (keepsRow_ofExcept _) fun _ _ =>
    .bind (keepsRow_handleVipFip rfl hset) fun _ _ => .pure trivial

/-- A row keeps what holds of its keys over the update of a port, unless the port tells its
load balancer and the association breaks it. -/
theorem rowWith_vipPortUpdateHandler (h : nb.RowWith u I) (hset : ∀ lbId add,
    toldLb lsp = some (lbId, add) → (∃ row ∈ nb.lbsNamed lbId, row.uuid = u) → KeepsFip add fip I) :
    ((vipPortUpdateHandler env lsp fip .sync).run Nb.apply nb).2.RowWith u I := by
  cases htold : toldLb lsp with
  | none =>
      rw [toldLb, Option.map_eq_none_iff] at htold
      simp only [vipPortUpdateHandler, htold]
      exact h
  | some told =>
      obtain ⟨lbId, add⟩ := told
      have hall : KeepsRow u I (do
          Prog.ofExcept env.neutronClient
          let queued ← Prog.mapEach (syncFip env lsp fip add) (nb.lbsNamed lbId)
          return queued.flatten : Nbctl (List FipInfo)) fun _ => True := by
        refine .bind (keepsRow_ofExcept _) fun _ _ => .bind (R := fun _ => True)
          (.mapEach (S := fun _ => True) fun lb hm => ?_) fun _ _ => .pure trivial
        exact keepsRow_syncFip fun hu => hset lbId add htold ⟨lb, hm, hu⟩
      rw [vipPortUpdateHandler_sync htold, Prog.run_bind, Prog.run_attempt, run_findOvnLbs]
      by_cases hnil : nb.lbsNamed lbId = []
      · rw [if_pos hnil]
        exact h
      · rw [if_neg hnil]
        exact (hall nb h).1

/-- An update that goes through leaves the floating IP on every row of the load balancer. -/
theorem rowWith_vipPortUpdateHandler_fip {lbId : Str} {row : LoadBalancer} {queued : List FipInfo}
    (hw : nb.WellFormed) (htold : toldLb lsp = some (lbId, false)) (hm : row ∈ nb.lbsNamed lbId)
    (hrun : (vipPortUpdateHandler env lsp fip .sync).run Nb.apply nb = (.ok queued, nb')) :
    nb'.RowWith row.uuid (·.get? lbExtIdsVipFipKey = some fip) := by
  have hfound : ∀ r ∈ nb.lbsNamed lbId, nb.lb? r.uuid = some r :=
    fun r hr => hw.lb?_of_mem (List.mem_of_mem_filter hr)
  rw [vipPortUpdateHandler_sync htold, Prog.run_bind, Prog.run_attempt, run_findOvnLbs,
    if_neg (List.ne_nil_of_mem hm)] at hrun
  obtain ⟨_, t, hclient, hrun⟩ := Prog.run_bind_ok hrun
  obtain ⟨-, rfl⟩ := Prod.mk.inj ((Prog.run_ofExcept Nb.apply _ nb).symm.trans hclient)
  obtain ⟨_, t, hall, hrun⟩ := Prog.run_bind_ok hrun
  cases hrun
  refine Prog.Keeps.mapEach_reaches (I := fun nb => nb.RowWith row.uuid fun _ => True)
    (J := fun nb => nb.RowWith row.uuid (·.get? lbExtIdsVipFipKey = some fip))
    (fun lb _ => keepsRow_syncFip fun _ => fun _ _ _ _ _ _ _ _ _ _ => trivial)
    (fun lb hlb hne => keepsRow_syncFip fun hu => ?_) (.inr hm) (fun t _ t' ht hround => ?_)
    ⟨row, hfound row hm, trivial⟩ hall
  · have hsame := hfound lb hlb
    rw [hu, hfound row hm, Option.some.injEq] at hsame
    exact absurd hsame.symm hne
  · obtain ⟨port, t₁, hport, hround⟩ := Prog.run_bind_ok hround
    obtain ⟨-, rfl⟩ := Prod.mk.inj ((Prog.run_ofExcept Nb.apply _ t).symm.trans hport)
    obtain ⟨_, t₁, hhandle, hround⟩ := Prog.run_bind_ok hround
    cases hround
    exact rowWith_handleVipFip rfl rfl ht hhandle

end Associating

section Agreement
variable {env : Env} {source : SyncSource} {nb nb' s : Nb} {lb : Octavia.ProvidedLoadBalancer}
  {lsp : LogicalSwitchPort} {fip : Str}

/-- The switch port of the VIP and its floating IP, when Neutron has the same one. -/
def agreedFip (source : SyncSource) (nb : Nb) (lb : Octavia.ProvidedLoadBalancer) :
    Option (LogicalSwitchPort × Str) :=
  match lb.vipPortId, lb.tree.vipNetworkId with
  | some (c :: portId), some (d :: networkId) =>
      match source.ips (c :: portId), getLsp nb (c :: portId) (d :: networkId) with
      | .ok (fip :: _), some lsp =>
          if lsp.externalIds.get? ovnPortFipExtIdKey = some fip then some (lsp, fip) else none
      | _, _ => none
  | _, _ => none

/-- The agreed floating IP is one that Neutron has. -/
theorem mem_ips_of_agreedFip (h : agreedFip source nb lb = some (lsp, fip)) :
    ∃ portId fips, source.ips portId = .ok fips ∧ fip ∈ fips := by
  unfold agreedFip at h
  split at h
  · split at h
    · next hips _ =>
        split at h
        · cases h
          exact ⟨_, _, hips, List.mem_cons_self⟩
        · cases h
    · cases h
  · cases h

theorem Nb.Continues.agreedFip_eq (h : nb.Continues s) (lb : Octavia.ProvidedLoadBalancer) :
    agreedFip source s lb = agreedFip source nb lb := by
  unfold agreedFip
  split
  · rw [h.getLsp_eq]
  · rfl

theorem getFipFromVip_ok {portId : Str} {fips : Option (List Str)}
    (h : getFipFromVip env source portId = .ok fips) (l : List Str) :
    fips = some l ↔ source.ips portId = .ok l := by
  obtain ⟨_, -, h⟩ := Except.bind_eq_ok.mp h
  split at h
  · next hips =>
      cases h
      rw [hips, Option.some.injEq, Except.ok.injEq]
  · next hips =>
      cases h
      rw [hips]
      exact ⟨nofun, nofun⟩
  · next hips =>
      cases h
      rw [hips]
      exact ⟨nofun, nofun⟩
  · cases h

/-- A sync of a floating IP that ends has handed on the agreed one, if any. -/
theorem run_fipSync_ok (hrun : (fipSync env source lb).run Nb.apply nb = (.ok (), nb')) :
    (agreedFip source nb lb = none ∧ nb' = nb) ∨
      ∃ lsp fip queued, agreedFip source nb lb = some (lsp, fip) ∧
        (vipPortUpdateHandler env lsp fip .sync).run Nb.apply nb = (.ok queued, nb') := by
  rw [fipSync] at hrun
  split at hrun
  · next c portId d networkId hport hnet =>
      obtain ⟨fips, t, hfips, hrun⟩ := Prog.run_bind_ok hrun
      obtain ⟨hfound, rfl⟩ := Prod.mk.inj ((Prog.run_ofExcept Nb.apply _ nb).symm.trans hfips)
      have hips := getFipFromVip_ok hfound
      obtain ⟨_, t, hget, hrun⟩ := Prog.run_bind_ok hrun
      cases hget
      simp only [agreedFip, hport, hnet]
      dsimp only at hrun
      split at hrun
      · next neutronFip _ lsp hlsp _ =>
          rw [(hips _).mp rfl, hlsp]
          dsimp only
          split at hrun
          · next hsame =>
              obtain ⟨queued, t, hqueued, hrun⟩ := Prog.run_bind_ok hrun
              cases hrun
              exact .inr ⟨lsp, neutronFip, queued, if_pos hsame, hqueued⟩
          · next hdiffer =>
              cases hrun
              exact .inl ⟨if_neg hdiffer, rfl⟩
      · next hno =>
          cases hrun
          refine .inl ⟨?_, rfl⟩
          split
          · next hok hlsp =>
              exact (hno _ _ _ ((hips _).mpr hok) hlsp).elim
          · rfl
  · next hno =>
      cases hrun
      refine .inl ⟨?_, rfl⟩
      rw [agreedFip]
      split
      · next hport hnet => exact (hno _ _ _ _ hport hnet).elim
      · rfl

end Agreement

end OvnOctavia

import OvnOctavia.RouterRefs

/-!
The association with a router one command at a time. It passes over the switches that
have vanished, and so agrees with the transaction that a router without their ports
would get.
-/

namespace OvnOctavia

section Ports
variable {nb nb' : Nb} {env : Env}

/-- The port is not on a switch that has vanished. -/
def Nb.present (nb : Nb) (port : LogicalRouterPort) : Bool :=
  match port.externalIds.get? ovnNetworkNameExtIdKey with
  | some (c :: name) => (nb.switch? (.name (ovnName (c :: name)))).isSome
  | _ => true

/-- The router `r` with some of its ports only. -/
def Nb.keepPorts (nb : Nb) (r : Nat) (p : LogicalRouterPort → Bool) : Nb :=
  nb.updateRouter r fun lr => { lr with ports := lr.ports.filter p }

/-- The router `r` without the ports of the switches that have vanished. -/
def Nb.withoutVanished (nb : Nb) (r : Nat) : Nb := nb.keepPorts r nb.present

/-- The name of the switch of a port that counts for the version. -/
def LogicalRouterPort.lsNames (env : Env) (v : IpVersion) (port : LogicalRouterPort) : List Str :=
  if port.gatewayChassis then [] else
    match port.networks with
    | [] => []
    | network :: _ =>
        if env.ipVersion network = some v then
          match port.externalIds.get? ovnNetworkNameExtIdKey with
          | some (c :: name) => [ovnName (c :: name)]
          | _ => []
        else []

theorem findLsForLr_eq {lr : LogicalRouter} (h : lr.Addressed env) (v : IpVersion) :
    findLsForLr env lr v = .ok (lr.ports.flatMap (LogicalRouterPort.lsNames env v)) := by
  refine Except.foldlM_append (fun port hp ls => ?_) []
  cases hg : port.gatewayChassis with
  | true => simp [LogicalRouterPort.lsNames, hg]
  | false =>
      obtain ⟨network, rest, hnet, hver⟩ := h port hp hg
      obtain ⟨w, hw⟩ := Option.isSome_iff_exists.mp hver
      have hw' : env.version network = .ok w := env.version_eq_ok_iff.mpr hw
      by_cases hwv : w = v
      · subst hwv
        rcases hname : port.externalIds.get? ovnNetworkNameExtIdKey with _ | _ | ⟨c, name⟩
        all_goals simp [LogicalRouterPort.lsNames, hg, hnet, hw, hw', hname, Except.ok_bind, pure,
          Except.pure]
      · simp [LogicalRouterPort.lsNames, hg, hnet, hw, hw', hwv, Except.ok_bind, pure, Except.pure]

/-- The ports that are kept are those with a switch to find. -/
theorem flatMap_lsNames_filter (v : IpVersion) (ports : List LogicalRouterPort) :
    (ports.filter nb.present).flatMap (LogicalRouterPort.lsNames env v) =
      (ports.flatMap (LogicalRouterPort.lsNames env v)).filter
        fun x => (nb.switch? (.name x)).isSome := by
  induction ports with
  | nil => rfl
  | cons port ports ih =>
      have hport : (port.lsNames env v).filter (fun x => (nb.switch? (.name x)).isSome) =
          if nb.present port then port.lsNames env v else [] := by
        unfold LogicalRouterPort.lsNames Nb.present
        rcases port.externalIds.get? ovnNetworkNameExtIdKey with _ | _ | ⟨c, name⟩
        all_goals
          cases port.gatewayChassis <;> cases port.networks <;> grind
      rw [List.flatMap_cons, List.filter_append, hport, ← ih, List.filter_cons]
      split
      · exact List.flatMap_cons ..
      · exact (List.nil_append _).symm

end Ports

section Commands
variable {nb nb' : Nb} {env : Env} {lb row : LoadBalancer} {lr live : LogicalRouter} {r : Nat}
  {p : LogicalRouterPort → Bool}

/-- The commands that associate the row `u` with the router `r` or take it off. -/
inductive Command.OnRouter (u r : Nat) : Command → Prop
  | linkSwitch (x : Str) : OnRouter u r (.lsLbAdd (.name x) u)
  | unlinkSwitch (x : Str) : OnRouter u r (.lsLbDel (.name x) u true)
  | write (op : LbOp) : OnRouter u r (.lbUpdate u op)
  | link : OnRouter u r (.lrLbAdd r u)
  | unlink : OnRouter u r (.lrLbDel r u true)

/-- The command is not about a switch that has vanished. -/
def Nb.carries (nb : Nb) : Command → Bool
  | .lsLbAdd ref _ | .lsLbDel ref _ _ => (nb.switch? ref).isSome
  | _ => true

theorem Nb.router?_keepPorts (hlr : nb.router? r = some live) :
    (nb.keepPorts r p).router? r = some { live with ports := live.ports.filter p } := by
  rw [Nb.keepPorts, Nb.router?_updateRouter, hlr, Option.map_some,
    if_pos (Nb.router?_eq_some hlr).2]
  exact fun _ => rfl

theorem filter_carries_switches (nets : List Str) (f : Str → Command)
    (hf : ∀ x, nb.carries (f x) = (nb.switch? (.name x)).isSome) :
    (nets.map f).filter nb.carries =
      (nets.filter fun x => (nb.switch? (.name x)).isSome).map f := by
  rw [List.filter_map]
  exact congrArg (List.map f) (List.filter_congr fun x _ => hf x)

/-- Without the ports of vanished switches the commands on these switches are left out. -/
theorem commands_withoutVanished (delete isSync : Bool) (hrow : nb.lb? lb.uuid = some row)
    (hvip : row.HasVip env)
    (hlr : nb.router? lr.uuid = some live) (haddr : live.Addressed env) :
    ∃ cs, getLbToLrAssociationCommands env nb lb lr delete isSync = .ok cs ∧
      getLbToLrAssociationCommands env (nb.withoutVanished lr.uuid) lb lr delete isSync =
        .ok (cs.filter nb.carries) ∧
      ∀ c ∈ cs, c.OnRouter row.uuid live.uuid := by
  obtain ⟨vip, hvip, hver⟩ := hvip
  obtain ⟨v, hv⟩ := Option.isSome_iff_exists.mp hver
  have hversion : vipVersion env row = .ok v := by
    simp [vipVersion, hvip, hv]
  have haddr' : LogicalRouter.Addressed env { live with ports := live.ports.filter nb.present } :=
    fun port hp => haddr port (List.mem_of_mem_filter hp)
  have hnets := findLsForLr_eq haddr v
  have hnets' := findLsForLr_eq haddr' v
  rw [flatMap_lsNames_filter] at hnets'
  generalize live.ports.flatMap (LogicalRouterPort.lsNames env v) = nets at hnets hnets'
  have hrow' : (nb.withoutVanished lr.uuid).lb? lb.uuid = some row := hrow
  have hlr' := Nb.router?_keepPorts (p := nb.present) hlr
  have hlr' : (nb.withoutVanished lr.uuid).router? lr.uuid = _ := hlr'
  have hls : ∀ ref, (nb.withoutVanished lr.uuid).switch? ref = nb.switch? ref := by
    intro ref
    cases ref <;> rfl
  simp only [getLbToLrAssociationCommands, live_of_lb? hrow, live_of_lb? hrow', hlr, hlr',
    Option.getD_some]
  cases delete with
  | true =>
      simp only [if_true, delLbToLrAssociation, hversion, hnets, hnets', Except.ok_bind]
      refine ⟨_, rfl, congrArg Except.ok ?_, fun c hc => ?_⟩
      · rw [List.filter_append]
        refine congrArg₂ (· ++ ·) ?_ (filter_carries_switches nets _ fun _ => rfl).symm
        split
        · split
          · rfl
          · rfl
        · rfl
      · rcases List.mem_append.mp hc with hc | hc
        · split at hc
          · rcases List.mem_cons.mp hc with rfl | hc
            · split
              · exact .write _
              · exact .write _
            · rw [List.mem_singleton.mp hc]
              exact .unlink
          · cases hc
        · obtain ⟨x, -, rfl⟩ := List.mem_map.mp hc
          exact .unlinkSwitch x
  | false =>
      simp only [Bool.false_eq_true, if_false, addLbToLrAssociation, hversion, hnets, hnets',
        Except.ok_bind, hls]
      refine ⟨_, rfl, congrArg Except.ok ?_, fun c hc => ?_⟩
      · rw [List.filter_append, List.filter_append]
        refine congrArg₂ (· ++ ·) (congrArg₂ (· ++ ·) ?_ ?_) ?_
        · split
          · rfl
          · rfl
        · rw [filter_carries_switches _ _ fun _ => rfl, List.filter_filter, List.filter_filter]
          exact congrArg _ (List.filter_congr fun x _ => Bool.and_comm ..)
        · split
          · rfl
          · rfl
      · rcases List.mem_append.mp hc with hc | hc
        · rcases List.mem_append.mp hc with hc | hc
          · split at hc
            · cases hc
            · rw [List.mem_singleton.mp hc]
              exact .link
          · obtain ⟨x, -, rfl⟩ := List.mem_map.mp hc
            exact .linkSwitch x
        · split at hc
          · cases hc
          · rw [List.mem_singleton.mp hc]
            exact .write _

theorem map_map_comm {α : Type} {f g : α → α} (h : ∀ a, f (g a) = g (f a)) (l : List α) :
    (l.map g).map f = (l.map f).map g := by
  rw [List.map_map, List.map_map]
  exact List.map_congr_left fun a _ => h a

/-- The ports of a router do not matter to a command. -/
theorem Nb.apply_keepPorts (c : Command) (s : Nb) (r : Nat) (p : LogicalRouterPort → Bool) :
    Nb.apply c (s.keepPorts r p) = (Nb.apply c s).map (·.keepPorts r p) := by
  have hrouter : ∀ n, ((s.keepPorts r p).router? n).map LogicalRouter.loadBalancer =
      (s.router? n).map LogicalRouter.loadBalancer := by
    intro n
    rw [Nb.keepPorts, Nb.router?_updateRouter, Option.map_map]
    · refine congrArg (Option.map · _) (funext fun lr => ?_)
      dsimp only [Function.comp_apply]
      split
      · rfl
      · rfl
    · exact fun _ => rfl
  have hupdate : ∀ n (f : List Nat → List Nat),
      (s.keepPorts r p).updateRouter n (fun lr => { lr with loadBalancer := f lr.loadBalancer }) =
      (s.updateRouter n fun lr => { lr with loadBalancer := f lr.loadBalancer }).keepPorts r p := by
    intro n f
    refine congrArg (fun l => ({ s with routers := l } : Nb)) (map_map_comm (fun lr => ?_) _)
    by_cases hr : lr.uuid = r
    · simp only [if_pos hr]
      split
      · rfl
      · rfl
    · simp only [if_neg hr]
      split
      · rfl
      · rfl
  have hlb : ∀ u, (s.keepPorts r p).lb? u = s.lb? u := fun _ => rfl
  have hls : ∀ ref, (s.keepPorts r p).switch? ref = s.switch? ref := by
    intro ref
    cases ref <;> rfl
  cases c with
  | lrLbAdd n u =>
      have hn := hrouter n
      simp only [Nb.apply, hlb]
      cases hs : s.router? n with
      | none =>
          rw [hs] at hn
          rw [Option.map_eq_none_iff.mp hn]
          rfl
      | some lr =>
          obtain ⟨lr', hlr', -⟩ := Option.map_eq_some_iff.mp (hs ▸ hn)
          rw [hlr']
          cases s.lb? u with
          | none => rfl
          | some row => exact congrArg Except.ok (hupdate n fun l => if u ∈ l then l else l ++ [u])
  | lrLbDel n u ifExists =>
      have hn := hrouter n
      simp only [Nb.apply, hlb]
      cases hs : s.router? n with
      | none =>
          rw [hs] at hn
          rw [Option.map_eq_none_iff.mp hn]
          rfl
      | some lr =>
          obtain ⟨lr', hlr', hl⟩ := Option.map_eq_some_iff.mp (hs ▸ hn)
          rw [hlr']
          dsimp only
          split
          · exact congrArg Except.ok (hupdate n (List.filter (· ≠ u)))
          · rfl
  | lbDel u =>
      simp only [Nb.apply, hlb]
      cases s.lb? u with
      | none => rfl
      | some row =>
          refine congrArg (fun l => Except.ok ({ s.deleteLb u with routers := l } : Nb))
            (map_map_comm (fun lr => ?_) s.routers)
          by_cases hr : lr.uuid = r
          · simp only [if_pos hr]
          · simp only [if_neg hr]
  | lsLbAdd ref u =>
      simp only [Nb.apply, hlb, hls]
      cases s.switch? ref with
      | none => rfl
      | some ls =>
          cases s.lb? u with
          | none => rfl
          | some row => rfl
  | lsLbDel ref u ifExists =>
      simp only [Nb.apply, hlb, hls]
      cases s.switch? ref with
      | none => rfl
      | some ls =>
          dsimp only
          split
          · rfl
          · rfl
  | lbCreate | portDelete => rfl
  | lbUpdate u op | hcCreate u vip options externalIds =>
      simp only [Nb.apply, hlb]
      cases s.lb? u with
      | none => rfl
      | some row => rfl
  | hcUpdate u op | hcDestroy u =>
      have hhc : (s.keepPorts r p).hc? u = s.hc? u := rfl
      simp only [Nb.apply, hhc]
      cases s.hc? u with
      | none => rfl
      | some hc => rfl
  | natClearExternalMac n | natClearLogicalPort n =>
      have hnats : (s.keepPorts r p).nats = s.nats := rfl
      simp only [Nb.apply, hnats]
      split
      · rfl
      · rfl

end Commands

section Agreement
variable {nb : Nb} {env : Env} {lb row : LoadBalancer} {lr live : LogicalRouter}

/-- While the row and the router are there, a command fails just where its switch is gone. -/
theorem Command.OnRouter.apply {s : Nb} {c : Command} {u r : Nat} (hc : c.OnRouter u r)
    (htop : nb.SameTopology s) (hrow : (s.lb? u).isSome) (hlr : (nb.router? r).isSome) :
    (nb.carries c = true → ∃ s', Nb.apply c s = .ok s' ∧ (s'.lb? u).isSome) ∧
      (nb.carries c = false → Nb.apply c s = .error .rowNotFound ∧ c.isLsLb = true) := by
  obtain ⟨x, hx⟩ := Option.isSome_iff_exists.mp hrow
  obtain ⟨lr, hlr⟩ := Option.isSome_iff_exists.mp hlr
  obtain ⟨lr', hlr', -⟩ := htop.router? hlr
  cases hc with
  | linkSwitch name =>
      have hcarries : nb.carries (.lsLbAdd (.name name) u) = (s.switch? (.name name)).isSome :=
        (htop.isSome_switch? name).symm
      rw [hcarries]
      cases hls : s.switch? (.name name) with
      | none =>
          simp only [Nb.apply, hls]
          exact ⟨by rintro ⟨⟩, fun _ => ⟨trivial, rfl⟩⟩
      | some ls =>
          simp only [Nb.apply, hls, hx]
          exact ⟨fun _ => ⟨_, rfl, hrow⟩, by rintro ⟨⟩⟩
  | unlinkSwitch name =>
      have hcarries : nb.carries (.lsLbDel (.name name) u true) =
          (s.switch? (.name name)).isSome := (htop.isSome_switch? name).symm
      rw [hcarries]
      cases hls : s.switch? (.name name) with
      | none =>
          simp only [Nb.apply, hls]
          exact ⟨by rintro ⟨⟩, fun _ => ⟨trivial, rfl⟩⟩
      | some ls =>
          simp only [Nb.apply, hls, or_true, if_true]
          exact ⟨fun _ => ⟨_, rfl, hrow⟩, by rintro ⟨⟩⟩
  | write op =>
      refine ⟨fun _ => ⟨_, Nb.apply_lbUpdate hx op, ?_⟩, by rintro ⟨⟩⟩
      rw [Nb.lb?_updateLb fun y => LbOp.uuid_apply y op, hx]
      rfl
  | link =>
      simp only [Nb.apply, hlr', hx]
      exact ⟨fun _ => ⟨_, rfl, hrow⟩, by rintro ⟨⟩⟩
  | unlink =>
      simp only [Nb.apply, hlr', or_true, if_true]
      exact ⟨fun _ => ⟨_, rfl, hrow⟩, by rintro ⟨⟩⟩

/-- One step at a time, the association with a router ends in `nb'`, as the transaction
does on the router without the ports of vanished switches, or with them if none has. -/
structure AgreesByStep (env : Env) (lb : LoadBalancer) (lr : LogicalRouter)
    (delete isSync : Bool) (nb nb' : Nb) : Prop where
  steps : (updateLbToLrAssociationByStep env lb lr delete isSync).run Nb.apply nb = (.ok (), nb')
  ports : nb.SameTopology nb'
  atomic : (updateLbToLrAssociation env lb lr delete isSync).run Nb.apply
    (nb.withoutVanished lr.uuid) = (.ok (), nb'.withoutVanished lr.uuid)
  whole : (∀ live, nb.router? lr.uuid = some live → ∀ port ∈ live.ports, nb.present port = true) →
    (updateLbToLrAssociation env lb lr delete isSync).run Nb.apply nb = (.ok (), nb')

theorem byStep_agrees (hrow : nb.lb? lb.uuid = some row) (hvip : row.HasVip env)
    (hlr : nb.router? lr.uuid = some live) (haddr : live.Addressed env) (delete isSync : Bool) :
    ∃ nb', AgreesByStep env lb lr delete isSync nb nb' := by
  obtain ⟨cs, hcs, hcs', hshape⟩ := commands_withoutVanished delete isSync hrow hvip hlr haddr
  have hlive := (Nb.router?_eq_some hlr).2
  have hrowu := (Nb.lb?_eq_some hrow).2
  have hstart : nb.SameTopology nb ∧ (nb.lb? row.uuid).isSome := by
    rw [hrowu, hrow]
    exact ⟨.refl nb, rfl⟩
  have hrouter : (nb.router? live.uuid).isSome := by
    rw [hlive, hlr]
    rfl
  obtain ⟨nb', ht, ⟨htop, -⟩, hrun⟩ := Prog.run_each_skipping Nb.apply
    (fun c e => if e = .rowNotFound ∧ c.isLsLb then pure () else throw e) nb.carries
    (fun s => nb.SameTopology s ∧ (s.lb? row.uuid).isSome)
    (fun c hc hlive s hs => by
      obtain ⟨s', ha, hs'⟩ := ((hshape c hc).apply hs.1 hs.2 hrouter).1 hlive
      exact ⟨s', ha, hs.1.trans (Nb.sameTopology_apply ha), hs'⟩)
    (fun c hc hdead s hs => by
      obtain ⟨ha, hls⟩ := ((hshape c hc).apply hs.1 hs.2 hrouter).2 hdead
      exact ⟨_, ha, if_pos ⟨rfl, hls⟩⟩) hstart
  have hatomic := fun nb => run_retried (fun nb => getLbToLrAssociationCommands env nb lb lr delete
    isSync) (· = .rowNotFound) 2 nb
  refine ⟨nb', ?_, htop, ?_, fun hall => ?_⟩
  · simp only [updateLbToLrAssociationByStep, Prog.run_bind, Prog.run_get, Prog.run_ofExcept, hcs]
    exact hrun
  · have hpresent : nb'.present = nb.present := by
      funext port
      unfold Nb.present
      split
      · exact htop.isSome_switch? _
      · rfl
    have hkeep : Prog.transact Nb.apply (cs.filter nb.carries) (nb.withoutVanished lr.uuid) =
        .ok (nb'.withoutVanished lr.uuid) := by
      rw [Nb.withoutVanished, Nb.withoutVanished, hpresent,
        Prog.transact_comm Nb.apply (f := (·.keepPorts lr.uuid nb.present))
          (fun c _ s => Nb.apply_keepPorts c s lr.uuid nb.present), ht]
      rfl
    refine (hatomic _).trans ?_
    rw [hcs']
    simp only [hkeep]
  · have hsame : getLbToLrAssociationCommands env (nb.withoutVanished lr.uuid) lb lr delete isSync =
        getLbToLrAssociationCommands env nb lb lr delete isSync := by
      have hr : (nb.withoutVanished lr.uuid).router? lr.uuid = nb.router? lr.uuid := by
        rw [Nb.withoutVanished, Nb.router?_keepPorts hlr, hlr,
          List.filter_eq_self.mpr (hall live hlr)]
      unfold getLbToLrAssociationCommands
      rw [hr]
      rfl
    refine (hatomic _).trans ?_
    rw [← hsame, hcs']
    simp only [ht]

end Agreement

section Example

/-- A router with an interface on the network of the VIP and one on a switch that is gone. -/
def exampleWideRouter : LogicalRouter :=
  { exampleRouter with
    ports := exampleRouter.ports ++ [⟨"lrp2".toList, false, ["10.0.2.1/24".toList],
      .single ovnNetworkNameExtIdKey (ovnName (exampleId 'b'))⟩] }

def exampleWideLinks : Nb := { exampleLinks [] exampleVipCount with routers := [exampleWideRouter] }

theorem byStep_agrees_example :
    ∃ nb', AgreesByStep exampleEnv (exampleLinkedRow [] exampleVipCount) exampleRouter false false
      exampleWideLinks nb' := by
  have hvip : (exampleLinkedRow [] exampleVipCount).HasVip exampleEnv :=
    ⟨"10.0.0.2".toList, rfl, rfl⟩
  have haddr : exampleWideRouter.Addressed exampleEnv := by
    intro port hp _
    rcases List.mem_cons.mp hp with rfl | hp
    · exact ⟨_, _, rfl, rfl⟩
    · rw [List.mem_singleton.mp hp]
      exact ⟨_, _, rfl, rfl⟩
  exact byStep_agrees (show _ = some (exampleLinkedRow [] exampleVipCount) from rfl) hvip
    (show _ = some exampleWideRouter from rfl) haddr false false

end Example

end OvnOctavia

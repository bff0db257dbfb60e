import OvnOctavia.FipRequests

/-!
The floating IPs of the rows of a load balancer over the updates of its ports. An additional
VIP port that is given another address in the place of the one it has leaves the old address
behind; without such an update the rows follow the ports.
-/

namespace OvnOctavia

section Following
variable {env : Env} {lbId : Str} {ports : VipPort → Option Str} {nb : Nb} {e : Dict Str Str}

theorem VipPort.vip_ne (index : Nat) : vip ≠ additional index := nofun

/-- The keys of a row tell the addresses of the ports. -/
structure FollowsPorts (ports : VipPort → Option Str) (e : Dict Str Str) : Prop where
  vip : e.get? lbExtIdsVipFipKey = ports .vip
  nodup : (additFips e).Nodup
  additional : ∀ a, a ∈ additFips e ↔ ∃ index, ports (.additional index) = some a

/-- The ports have floating IPs, no two the same one. -/
structure PortFips (env : Env) (ports : VipPort → Option Str) : Prop where
  isFip : ∀ port f, ports port = some f → IsFip env f
  distinct : ∀ port port' f, ports port = some f → ports port' = some f → port = port'

/-- An update of a port of the load balancer, from the address it had. -/
structure PortEvent where
  port : VipPort
  row : LogicalSwitchPort
  old : Dict Str Str

def PortEvent.fip (event : PortEvent) : Option Str :=
  event.row.externalIds.get? ovnPortFipExtIdKey

def PortEvent.move (event : PortEvent) (ports : VipPort → Option Str) : VipPort → Option Str :=
  Function.update ports event.port event.fip

structure PortEvent.Changes (event : PortEvent) (env : Env) (lbId : Str)
    (ports : VipPort → Option Str) : Prop where
  name : event.row.externalIds.get? ovnPortNameExtIdKey = some (event.port.portName lbId)
  before : event.old.get? ovnPortFipExtIdKey = ports event.port
  isFip : ∀ f, event.fip = some f → IsFip env f
  free : ∀ f, event.fip = some f → ∀ port, port ≠ event.port → ports port ≠ some f
  found : ∃ p, env.getPort event.row.name = .ok p

/-- An additional VIP port gets another address in the place of the one it has. -/
def PortEvent.Replaces (event : PortEvent) (ports : VipPort → Option Str) : Prop :=
  ∃ index f g, event.port = .additional index ∧ ports event.port = some f ∧
    event.fip = some g ∧ f ≠ g

theorem PortFips.move (h : PortFips env ports) {event : PortEvent}
    (hc : event.Changes env lbId ports) : PortFips env (event.move ports) := by
  have hat : ∀ port, (event.move ports) port =
      if port = event.port then event.fip else ports port := fun port => by
    rw [PortEvent.move, Function.update_apply]
  constructor
  · intro port f hf
    rw [hat] at hf
    split at hf
    · exact hc.isFip f hf
    · exact h.isFip port f hf
  · intro port port' f hf hf'
    rw [hat] at hf hf'
    split at hf <;> split at hf'
    · next hp hp' => exact hp.trans hp'.symm
    · next hp' => exact absurd hf' (hc.free f hf port' hp')
    · next hp _ => exact absurd hf (hc.free f hf' port hp)
    · exact h.distinct port port' f hf hf'

theorem FollowsPorts.ne_nil (hf : FollowsPorts ports e) (hp : PortFips env ports) :
    ∀ a ∈ additFips e, a ≠ [] := by
  intro a ha
  obtain ⟨index, hi⟩ := (hf.additional a).mp ha
  exact (hp.isFip _ a hi).ne_nil

/-- The VIP port gets an address, whatever it had. -/
theorem FollowsPorts.associate_vip (hf : FollowsPorts ports e) (f : Str) :
    FollowsPorts (Function.update ports .vip (some f))
      (e.set (fipKey false) (fipValue false f e)) := by
  have hadd : additFips (e.set (fipKey false) (fipValue false f e)) = additFips e :=
    additFips_congr (Dict.get?_set_of_ne _ _ (by decide))
  refine ⟨?_, hadd ▸ hf.nodup, fun a => ?_⟩
  · rw [Function.update_self]
    exact Dict.get?_set_self _ _ _
  · rw [hadd, hf.additional]
    simp

/-- An additional VIP port that has no address gets one. -/
theorem FollowsPorts.associate_additional (hf : FollowsPorts ports e) {f : Str}
    (hfip : IsFip env f) (hslot : e.get? lbExtIdsAdditVipFipKey ≠ some []) {index : Nat}
    (hnone : ports (.additional index) = none)
    (hfree : ∀ port, port ≠ .additional index → ports port ≠ some f) :
    FollowsPorts (Function.update ports (.additional index) (some f))
      (e.set (fipKey true) (fipValue true f e)) := by
  have hadd := hfip.additFips_set hslot
  have hnew : f ∉ additFips e := by
    rw [hf.additional]
    rintro ⟨i, hi⟩
    by_cases he : i = index
    · rw [he, hnone] at hi
      cases hi
    · exact hfree (.additional i) (fun h => he (VipPort.additional.inj h)) hi
  refine ⟨?_, ?_, fun a => ?_⟩
  · rw [Function.update_of_ne (VipPort.vip_ne index), Dict.get?_set_of_ne _ _ (by decide)]
    exact hf.vip
  · rw [hadd, List.nodup_append]
    refine ⟨hf.nodup, List.nodup_singleton f, fun a ha b hb he => ?_⟩
    rw [List.mem_singleton.mp hb] at he
    exact hnew (he ▸ ha)
  · rw [hadd, List.mem_append, List.mem_singleton, hf.additional]
    constructor
    · rintro (⟨i, hi⟩ | rfl)
      · refine ⟨i, ?_⟩
        rw [Function.update_of_ne]
        · exact hi
        · intro he
          rw [he, hnone] at hi
          cases hi
      · exact ⟨index, Function.update_self ..⟩
    · rintro ⟨i, hi⟩
      rw [Function.update_apply] at hi
      split at hi
      · exact .inr (Option.some.inj hi).symm
      · exact .inl ⟨i, hi⟩

/-- The VIP port loses its address. -/
theorem FollowsPorts.disassociate_vip (hf : FollowsPorts ports e) (hp : PortFips env ports)
    {f : Str} (hvip : ports .vip = some f) :
    FollowsPorts (Function.update ports .vip none) (dropVipFip f (dropAdditFip f e)) := by
  have hnot : f ∉ additFips e := by
    rw [hf.additional]
    rintro ⟨i, hi⟩
    cases hp.distinct _ _ f hvip hi
  have hsame : dropAdditFip f e = e := if_neg hnot
  have hadd : additFips (dropVipFip f e) = additFips e :=
    additFips_congr (get?_dropVipFip (by decide))
  rw [hsame]
  refine ⟨?_, hadd ▸ hf.nodup, fun a => ?_⟩
  · rw [get?_vip_dropVipFip, hf.vip, if_pos hvip, Function.update_self]
  · rw [hadd, hf.additional]
    simp

/-- An additional VIP port loses its address. -/
theorem FollowsPorts.disassociate_additional (hf : FollowsPorts ports e)
    (hp : PortFips env ports) {index : Nat} {f : Str}
    (hport : ports (.additional index) = some f) :
    FollowsPorts (Function.update ports (.additional index) none)
      (dropVipFip f (dropAdditFip f e)) := by
  have hadd : additFips (dropVipFip f (dropAdditFip f e)) = (additFips e).erase f := by
    rw [additFips_congr (get?_dropVipFip (by decide)), additFips_dropAdditFip (hf.ne_nil hp)]
  have hvip : e.get? lbExtIdsVipFipKey ≠ some f := by
    rw [hf.vip]
    intro hv
    cases hp.distinct _ _ f hv hport
  refine ⟨?_, hadd ▸ hf.nodup.erase f, fun a => ?_⟩
  · rw [get?_vip_dropVipFip, get?_dropAdditFip (by decide), if_neg hvip, hf.vip,
      Function.update_of_ne (VipPort.vip_ne index)]
  · rw [hadd, hf.nodup.mem_erase_iff, hf.additional]
    constructor
    · rintro ⟨hne, i, hi⟩
      refine ⟨i, ?_⟩
      rw [Function.update_of_ne]
      · exact hi
      · intro he
        rw [he, hport] at hi
        exact hne (Option.some.inj hi).symm
    · rintro ⟨i, hi⟩
      rw [Function.update_apply] at hi
      split at hi
      · cases hi
      · next hne =>
          refine ⟨?_, i, hi⟩
          rintro rfl
          exact hne (hp.distinct _ _ a hi hport)

/-- An address that is replaced stays in the list. -/
theorem FollowsPorts.not_replace (hf : FollowsPorts ports e) (hp : PortFips env ports)
    {f g : Str} (hfip : IsFip env g) (hslot : e.get? lbExtIdsAdditVipFipKey ≠ some [])
    {index : Nat} (hport : ports (.additional index) = some f) (hne : f ≠ g) :
    ¬FollowsPorts (Function.update ports (.additional index) (some g))
      (e.set (fipKey true) (fipValue true g e)) := by
  intro hf'
  have hold : f ∈ additFips (e.set (fipKey true) (fipValue true g e)) := by
    rw [hfip.additFips_set hslot]
    exact List.mem_append_left _ ((hf.additional f).mpr ⟨index, hport⟩)
  obtain ⟨i, hi⟩ := (hf'.additional f).mp hold
  rw [Function.update_apply] at hi
  split at hi
  · exact hne (Option.some.inj hi).symm
  · next h => exact h (hp.distinct _ _ f hi hport)

/-- What an update makes of the keys of a row. -/
def PortEvent.rekey (event : PortEvent) (e : Dict Str Str) : Dict Str Str :=
  match LogicalSwitchPortUpdateEvent.action event.row event.old with
  | some (some f, action) => fipKeys action event.port.isAdditional f e
  | _ => e

theorem PortEvent.Changes.action_eq {event : PortEvent} (hc : event.Changes env lbId ports)
    (hp : PortFips env ports) : LogicalSwitchPortUpdateEvent.action event.row event.old =
      if ports event.port = event.fip then none
      else match event.fip with
        | some f => some (some f, .associate)
        | none => (ports event.port).map fun f => (some f, .disassociate) := by
  have hne := hp.isFip event.port
  rw [LogicalSwitchPortUpdateEvent.action, hc.before]
  change (if ports event.port ≠ event.fip then _ else _) = _
  rw [ite_not]
  split
  · rfl
  · next hmoved =>
      have hrow : event.row.externalIds.get? ovnPortFipExtIdKey = event.fip := rfl
      rw [hrow]
      rcases hport : ports event.port with _ | _ | ⟨c, t⟩
      · cases hfip : event.fip with
        | none => exact absurd (hport.trans hfip.symm) hmoved
        | some f => rfl
      · exact absurd rfl (hne [] hport).ne_nil
      · cases event.fip <;> rfl

/-- The rows of the load balancer can be read, as far as floating IPs go. -/
structure FipsReadable (env : Env) (e : Dict Str Str) : Prop where
  readable : Readable env e
  slot : e.get? lbExtIdsAdditVipFipKey ≠ some []

theorem FipsReadable.associate (h : FipsReadable env e) {f : Str} (hf : IsFip env f)
    (add : Bool) : FipsReadable env (e.set (fipKey add) (fipValue add f e)) := by
  refine ⟨hf.readable_set h.readable h.slot add, ?_⟩
  cases add with
  | false =>
      rw [Dict.get?_set_of_ne _ _ (by decide)]
      exact h.slot
  | true =>
      intro hnil
      have hadd := hf.additFips_set h.slot
      rw [additFips, hnil] at hadd
      exact absurd hadd.symm (by simp)

theorem FipsReadable.disassociate (h : FipsReadable env e) (f : Str)
    (hnil : ∀ a ∈ additFips e, a ≠ []) :
    FipsReadable env (dropVipFip f (dropAdditFip f e)) := by
  have hadd := additFips_dropAdditFip (f := f) hnil
  constructor
  · refine Readable.dropVipFip (h.readable.of_fips (fun k hk _ => get?_dropAdditFip hk)
      fun a ha => ?_) f
    rw [mem_lbFips, get?_dropAdditFip (by decide), hadd] at ha
    exact h.readable.fips a (mem_lbFips.mpr (ha.imp_right List.mem_of_mem_erase))
  · rw [get?_dropVipFip (by decide)]
    intro he
    rw [dropAdditFip] at he
    split at he
    · split at he
      · next hne =>
          rw [Dict.get?_set_self, Option.some.injEq] at he
          exact join_erase_ne_nil hnil hne he
      · rw [Dict.get?_erase_self] at he
        cases he
    · exact h.slot he

theorem FipsReadable.rekey (h : FipsReadable env e) (hf : FollowsPorts ports e)
    (hp : PortFips env ports) {event : PortEvent} (hc : event.Changes env lbId ports) :
    FipsReadable env (event.rekey e) := by
  rw [PortEvent.rekey, hc.action_eq hp]
  by_cases hsame : ports event.port = event.fip
  · rw [if_pos hsame]
    exact h
  · rw [if_neg hsame]
    cases hnew : event.fip with
    | some f => exact h.associate (hc.isFip f hnew) _
    | none =>
        cases hold : ports event.port with
        | none => exact h
        | some f => exact h.disassociate f (hf.ne_nil hp)

/-- A row follows the ports over an update exactly when no address is replaced. -/
theorem FollowsPorts.rekey_iff (hf : FollowsPorts ports e) (hp : PortFips env ports)
    (h : FipsReadable env e) {event : PortEvent} (hc : event.Changes env lbId ports) :
    FollowsPorts (event.move ports) (event.rekey e) ↔ ¬event.Replaces ports := by
  rw [PortEvent.rekey, PortEvent.move, PortEvent.Replaces, hc.action_eq hp]
  by_cases hsame : ports event.port = event.fip
  · rw [if_pos hsame, ← hsame, Function.update_eq_self]
    refine iff_of_true hf ?_
    rintro ⟨index, f, g, -, hold, hnew, hne⟩
    rw [hold] at hnew
    exact hne (Option.some.inj hnew)
  · rw [if_neg hsame]
    cases hnew : event.fip with
    | none =>
        have hnot : ¬∃ index f g, event.port = .additional index ∧ ports event.port = some f ∧
            (none : Option Str) = some g ∧ f ≠ g := fun ⟨_, _, _, _, _, h, _⟩ => nomatch h
        refine iff_of_true ?_ hnot
        cases hold : ports event.port with
        | none => exact absurd (hold.trans hnew.symm) hsame
        | some f =>
            cases hport : event.port with
            | vip => exact hf.disassociate_vip hp (hport ▸ hold)
            | additional index => exact hf.disassociate_additional hp (hport ▸ hold)
    | some g =>
        have hfip := hc.isFip g hnew
        have hfree := hc.free g hnew
        cases hport : event.port with
        | vip => exact iff_of_true (hf.associate_vip g) fun ⟨_, _, _, h, _⟩ => nomatch h
        | additional index =>
            rw [hport] at hfree hsame
            cases hold : ports (.additional index) with
            | none =>
                exact iff_of_true (hf.associate_additional hfip h.slot hold hfree)
                  fun ⟨_, _, _, _, h, _⟩ => nomatch h
            | some f =>
                have hne : f ≠ g := fun he => hsame (by rw [hold, hnew, he])
                exact iff_of_false (hf.not_replace hp hfip h.slot hold hne)
                  fun hnot => hnot ⟨index, f, g, rfl, rfl, rfl, hne⟩

end Following

section Runs
variable {env : Env} {lbId : Str} {ports : VipPort → Option Str} {nb : Nb}

/-- Every row of the load balancer tells the addresses of its ports. -/
def Nb.Follows (nb : Nb) (lbId : Str) (ports : VipPort → Option Str) : Prop :=
  ∀ row ∈ nb.lbsNamed lbId, FollowsPorts ports row.externalIds

def PortEvent.handled (env : Env) (event : PortEvent) (nb : Nb) : Nb :=
  portUpdated env event.row event.old nb

/-- Each update finds the ports as the ones before it left them. -/
def PortRun (env : Env) (lbId : Str) : (VipPort → Option Str) → List PortEvent → Prop
  | _, [] => True
  | ports, event :: events =>
      event.Changes env lbId ports ∧ PortRun env lbId (event.move ports) events

/-- The rows follow the ports before the updates and after each of them. -/
def FollowsAlong (env : Env) (lbId : Str) : (VipPort → Option Str) → Nb → List PortEvent → Prop
  | ports, nb, [] => nb.Follows lbId ports
  | ports, nb, event :: events =>
      nb.Follows lbId ports ∧
        FollowsAlong env lbId (event.move ports) (event.handled env nb) events

def ReplacesNone : (VipPort → Option Str) → List PortEvent → Prop
  | _, [] => True
  | ports, event :: events =>
      ¬event.Replaces ports ∧ ReplacesNone (event.move ports) events

/-- The load balancer has rows, and they can be read. -/
structure Nb.FipsTracked (nb : Nb) (env : Env) (lbId : Str) : Prop where
  wellFormed : nb.WellFormed
  rows : nb.lbsNamed lbId ≠ []
  readable : ∀ row ∈ nb.lbsNamed lbId, FipsReadable env row.externalIds

theorem Nb.FipsTracked.allRekeyed (h : nb.FipsTracked env lbId) (hid : IsPatterned lbId)
    (hclient : env.neutronClient = .ok ()) (hp : PortFips env ports) {event : PortEvent}
    (hc : event.Changes env lbId ports) :
    nb.AllRekeyed event.rekey (nb.lbsNamed lbId) (event.handled env nb) := by
  obtain ⟨p, hport⟩ := hc.found
  have hfound : ∀ row ∈ nb.lbsNamed lbId, nb.lb? row.uuid = some row := fun row hm =>
    h.wellFormed.lb?_of_mem (Nb.mem_lbsNamed.mp hm).1
  have hrekey : event.rekey = fun e =>
      match LogicalSwitchPortUpdateEvent.action event.row event.old with
      | some (some f, action) => fipKeys action event.port.isAdditional f e
      | _ => e := rfl
  rw [PortEvent.handled, portUpdated, portRequests_eq hid hc.name hclient hport, hrekey]
  cases haction : LogicalSwitchPortUpdateEvent.action event.row event.old with
  | none =>
      exact ⟨h.wellFormed, fun row hm => ⟨row, hfound row hm, rfl, rfl⟩, fun _ _ => rfl⟩
  | some change =>
      obtain ⟨fip, action⟩ := change
      have hsync := action_ne_sync haction
      rw [hc.action_eq hp] at haction
      cases fip with
      | none =>
          split at haction
          · cases haction
          · split at haction
            · cases haction
            · cases hold : ports event.port <;> rw [hold] at haction <;> cases haction
      | some f =>
          dsimp only
          rw [List.foldl_map]
          refine allRekeyed_requests h.wellFormed ?_ hsync ?_ fun row hm =>
            ⟨hfound row hm, (h.readable row hm).readable, (h.readable row hm).slot⟩
          · exact h.wellFormed.nodup.sublist (List.Sublist.map _ List.filter_sublist)
          · rintro rfl
            split at haction
            · cases haction
            · split at haction
              · next g hg =>
                  cases haction
                  exact hc.isFip f hg
              · cases hold : ports event.port <;> rw [hold] at haction <;> cases haction

theorem Nb.FipsTracked.handled (h : nb.FipsTracked env lbId) (hid : IsPatterned lbId)
    (hclient : env.neutronClient = .ok ()) (hp : PortFips env ports)
    (hf : nb.Follows lbId ports) {event : PortEvent} (hc : event.Changes env lbId ports) :
    (event.handled env nb).FipsTracked env lbId ∧
      ((event.handled env nb).Follows lbId (event.move ports) ↔ ¬event.Replaces ports) := by
  have hall := h.allRekeyed hid hclient hp hc
  obtain ⟨row, hrow⟩ := List.exists_mem_of_ne_nil _ h.rows
  refine ⟨⟨hall.wellFormed, ?_, fun row' hm => ?_⟩, fun hf' => ?_, fun hno row' hm => ?_⟩
  · obtain ⟨row', hm, -⟩ := hall.mem hrow
    exact List.ne_nil_of_mem hm
  · obtain ⟨r, hr, hkeys⟩ := hall.of_mem hm
    exact hkeys ▸ (h.readable r hr).rekey (hf r hr) hp hc
  · obtain ⟨row', hm, hkeys⟩ := hall.mem hrow
    exact ((hf row hrow).rekey_iff hp (h.readable row hrow) hc).mp (hkeys ▸ hf' row' hm)
  · obtain ⟨r, hr, hkeys⟩ := hall.of_mem hm
    exact hkeys ▸ ((hf r hr).rekey_iff hp (h.readable r hr) hc).mpr hno

/-- Over any updates of the ports, the keys of floating IPs follow the ports exactly when no
additional VIP port is given another address in the place of the one it has. -/
theorem followsAlong_iff (hid : IsPatterned lbId) (hclient : env.neutronClient = .ok ())
    (h : nb.FipsTracked env lbId) (hp : PortFips env ports) (hf : nb.Follows lbId ports)
    {events : List PortEvent} (hrun : PortRun env lbId ports events) :
    FollowsAlong env lbId ports nb events ↔ ReplacesNone ports events := by
  induction events generalizing ports nb with
  | nil => exact iff_of_true hf trivial
  | cons event events ih =>
      obtain ⟨hnext, hiff⟩ := h.handled hid hclient hp hf hrun.1
      constructor
      · rintro ⟨-, halong⟩
        have hf' : (event.handled env nb).Follows lbId (event.move ports) := by
          cases events with
          | nil => exact halong
          | cons => exact halong.1
        exact ⟨hiff.mp hf', (ih hnext (hp.move hrun.1) hf' hrun.2).mp halong⟩
      · rintro ⟨hno, hrest⟩
        have hf' := hiff.mpr hno
        exact ⟨hf, (ih hnext (hp.move hrun.1) hf' hrun.2).mpr hrest⟩

end Runs

section Example

def examplePortsId : Str := "5f0b3a1c-8d2e-4c77-9a41-0e6d2b9c1f38".toList

def examplePortsEnv : Env :=
  { exampleEnv with getPort := fun id => .ok ⟨id, "net".toList, []⟩ }

def examplePortsNb : Nb :=
  { exampleNb with
    loadBalancers := [{
      uuid := 2, name := examplePortsId, protocol := none, vips := ∅
      externalIds := addVipKeys exampleLb
        (baseExternalIds "10.0.0.2".toList "port".toList true)
      options := ∅, selectionFields := [], healthCheck := [], ipPortMappings := ∅ }]
    nextUuid := 3 }

def examplePortKeys (port : VipPort) (fip : Option Str) : Dict Str Str :=
  let keys : Dict Str Str := .single ovnPortNameExtIdKey (port.portName examplePortsId)
  match fip with
  | some f => keys.set ovnPortFipExtIdKey f
  | none => keys

/-- The floating IP of a port changes. -/
def examplePortEvent (port : VipPort) (old new : Option Str) : PortEvent where
  port := port
  row :=
    { name := "port".toList, type := [], externalIds := examplePortKeys port new, options := ∅
      addresses := [] }
  old := examplePortKeys port old

/-- An additional VIP port gets an address, the VIP port another, and the first is replaced. -/
def examplePortEvents : List PortEvent :=
  [examplePortEvent (.additional 1) none (some "172.24.4.8".toList),
    examplePortEvent .vip none (some "172.24.4.9".toList),
    examplePortEvent (.additional 1) (some "172.24.4.8".toList) (some "172.24.4.7".toList)]

theorem fip_examplePortEvent (port : VipPort) (old : Option Str) (f : Str) :
    (examplePortEvent port old (some f)).fip = some f := Dict.get?_set_self _ _ _

theorem changes_examplePortEvent {ports : VipPort → Option Str} {port : VipPort} {f : Str}
    {old : Option Str} (hold : ports port = old)
    (hf : IsFip examplePortsEnv f) (hfree : ∀ p, p ≠ port → ports p ≠ some f) :
    (examplePortEvent port old (some f)).Changes examplePortsEnv examplePortsId ports := by
  have hkey : ovnPortNameExtIdKey ≠ ovnPortFipExtIdKey := by decide
  have hfip := fip_examplePortEvent port old f
  have hname : ∀ fip, (examplePortKeys port fip).get? ovnPortNameExtIdKey =
      some (port.portName examplePortsId) := by
    intro fip
    cases fip with
    | none => rfl
    | some g => exact Dict.get?_set_of_ne _ _ hkey
  refine ⟨hname _, ?_, fun g hg => ?_, fun g hg => ?_, ⟨_, rfl⟩⟩
  · refine Eq.trans ?_ hold.symm
    cases old with
    | none => rfl
    | some g => exact Dict.get?_set_self _ _ _
  · rw [hfip] at hg
    exact Option.some.inj hg ▸ hf
  · rw [hfip] at hg
    exact Option.some.inj hg ▸ hfree

theorem portRun_examplePortEvents :
    PortRun examplePortsEnv examplePortsId (fun _ => none) examplePortEvents := by
  refine ⟨changes_examplePortEvent rfl ⟨by decide, by decide, by decide, by decide⟩ (by simp),
    changes_examplePortEvent rfl ⟨by decide, by decide, by decide, by decide⟩ ?_,
    changes_examplePortEvent rfl ⟨by decide, by decide, by decide, by decide⟩ ?_, trivial⟩
  · intro p _ h
    rw [PortEvent.move, fip_examplePortEvent, Function.update_apply] at h
    split at h
    · exact absurd h (by decide)
    · cases h
  · intro p hp h
    rw [PortEvent.move, PortEvent.move, fip_examplePortEvent, fip_examplePortEvent,
      Function.update_apply, Function.update_apply] at h
    split at h
    · exact absurd h (by decide)
    · split at h
      · next he => exact hp he
      · cases h

theorem followsAlong_iff_example :
    FollowsAlong examplePortsEnv examplePortsId (fun _ => none) examplePortsNb
      (examplePortEvents.take 2) ∧
    ¬FollowsAlong examplePortsEnv examplePortsId (fun _ => none) examplePortsNb
      examplePortEvents := by
  have hid : IsPatterned examplePortsId := by decide
  have hrows : examplePortsNb.lbsNamed examplePortsId = examplePortsNb.loadBalancers := by
    decide +kernel
  have hread : FipsReadable examplePortsEnv
      (addVipKeys exampleLb (baseExternalIds "10.0.0.2".toList "port".toList true)) :=
    ⟨.addVipKeys ⟨by rintro a ⟨⟩; decide, nofun, nofun, nofun⟩ rfl, by decide⟩
  have htracked : examplePortsNb.FipsTracked examplePortsEnv examplePortsId := by
    refine ⟨⟨by decide +kernel, ?_⟩, by rw [hrows]; exact List.cons_ne_nil _ _, ?_⟩
    · intro row hm
      rw [List.mem_singleton.mp hm]
      decide
    · intro row hm
      rw [hrows] at hm
      rw [List.mem_singleton.mp hm]
      exact hread
  have hfollows : examplePortsNb.Follows examplePortsId fun _ => none := by
    intro row hm
    rw [hrows] at hm
    rw [List.mem_singleton.mp hm]
    have hnone : additFips (addVipKeys exampleLb
        (baseExternalIds "10.0.0.2".toList "port".toList true)) = [] := by decide +kernel
    refine ⟨by decide +kernel, hnone ▸ List.nodup_nil, fun a => ?_⟩
    rw [hnone]
    exact iff_of_false List.not_mem_nil nofun
  have hfips : PortFips examplePortsEnv fun _ => none := ⟨nofun, nofun⟩
  have hrun := portRun_examplePortEvents
  constructor
  · have hrun' : PortRun examplePortsEnv examplePortsId (fun _ => none)
        (examplePortEvents.take 2) := ⟨hrun.1, hrun.2.1, trivial⟩
    refine (followsAlong_iff hid rfl htracked hfips hfollows hrun').mpr ⟨?_, ?_, trivial⟩
    · rintro ⟨_, _, _, -, hold, -⟩
      cases hold
    · rintro ⟨_, _, _, hport, -⟩
      cases hport
  · intro h
    refine ((followsAlong_iff hid rfl htracked hfips hfollows hrun).mp h).2.2.1 ?_
    exact ⟨1, _, _, rfl, rfl, rfl, by decide⟩

end Example

end OvnOctavia

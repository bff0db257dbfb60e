import OvnOctavia.Library.Writes
import OvnOctavia.PortMappings
import OvnOctavia.Reenabling

/-!
The mappings of a row under the calls that add and delete them, and the event of a service
monitor, which looks for the mapping it comes from. The writer, the deleter and the event
each put the brackets of an IPv6 address themselves; they agree.
-/

namespace OvnOctavia

/-- A call that adds the mapping of an address or deletes it. -/
structure MappingCall where
  backendIp : Str
  portName : Str
  srcIp : Str
  delete : Bool
  deriving DecidableEq

def MappingCall.run (env : Env) (lb : LoadBalancer) (c : MappingCall) : Nbctl Unit :=
  updateIpPortMappings env lb c.backendIp c.portName c.srcIp c.delete

/-- An address of a known version, in the form that is not bracketed. -/
def IsAddress (env : Env) (a : Str) : Prop := (env.ipVersion a).isSome ∧ '[' ∉ a

/-- A call about an address; the name of the port has no colon. -/
structure MappingCall.Proper (env : Env) (c : MappingCall) : Prop where
  address : IsAddress env c.backendIp
  port : c.delete = false → ':' ∉ c.portName

section Runs
variable {env : Env} {nb : Nb} {lb row : LoadBalancer} {c : MappingCall} {cs : List MappingCall}

/-- What a call writes into the mappings. -/
def MappingCall.write (env : Env) (c : MappingCall) : Dict.Write Str Str :=
  ⟨mappingKey env c.backendIp,
    if c.delete then none else some (mappingText env c.backendIp c.portName c.srcIp)⟩

theorem MappingCall.run_eq (c : MappingCall) (hw : nb.WellFormed) (hrow : nb.lb? lb.uuid = some row)
    (hc : (env.ipVersion c.backendIp).isSome) : (c.run env lb).run Nb.apply nb =
      (.ok (), nb.putLb { row with ipPortMappings := row.ipPortMappings.write (c.write env) }) := by
  rw [MappingCall.run, run_updateIpPortMappings_eq hw hrow hc]
  simp only [Dict.write, MappingCall.write]
  cases c.delete <;> rfl

/-- The mappings after a sequence of calls. -/
theorem run_mappingCalls (hw : nb.WellFormed) (hu : row.uuid = lb.uuid)
    (hrow : nb.lb? lb.uuid = some row)
    (hcs : ∀ c ∈ cs, (env.ipVersion c.backendIp).isSome) :
    (Prog.each (MappingCall.run env lb) cs).run Nb.apply nb =
      (.ok (), nb.putLb { row with
        ipPortMappings := row.ipPortMappings.replay (cs.map (MappingCall.write env)) }) := by
  induction cs generalizing nb row with
  | nil =>
      have hself : nb.putLb row = nb := Nb.putLb_self hw (hu ▸ hrow)
      exact congrArg (Prod.mk _) hself.symm
  | cons c cs ih =>
      obtain ⟨row₁, hrow₁⟩ : ∃ row₁ : LoadBalancer, row₁ = { row with
        ipPortMappings := row.ipPortMappings.write (c.write env) } := ⟨_, rfl⟩
      have hu₁ : row₁.uuid = lb.uuid := by rw [hrow₁, ← hu]
      have hfirst := c.run_eq hw hrow (hcs c (List.mem_cons_self ..))
      rw [← hrow₁] at hfirst
      have hput : (nb.putLb row₁).lb? lb.uuid = some row₁ :=
        hu₁ ▸ Nb.lb?_putLb row₁ (hu₁.symm ▸ hrow)
      have hrest := ih (hw.putLb row₁) hu₁ hput fun d hd => hcs d (List.mem_cons_of_mem _ hd)
      rw [Nb.putLb_putLb (by rfl)] at hrest
      rw [Prog.run_each_ok _ hfirst, hrest, hrow₁]
      rfl

end Runs

section Texts
variable {env : Env} {a b port port' srcIp srcIp' : Str}

theorem mappingKey_inj (ha : IsAddress env a) (hb : IsAddress env b)
    (h : mappingKey env a = mappingKey env b) : a = b := by
  have hshown : ∀ x, mappingKey env x = shown ((env.ipVersion x).getD .v4) x := by
    intro x
    rw [mappingKey]
    rcases env.ipVersion x with _ | _ | _ <;> rfl
  rw [hshown, hshown] at h
  exact (shown_inj ha.2 hb.2 h).2

theorem mappingText_inj (hp : ':' ∉ port) (hp' : ':' ∉ port') :
    mappingText env a port srcIp = mappingText env a port' srcIp' ↔
      port = port' ∧ srcIp = srcIp' := by
  constructor
  · intro h
    rw [mappingText, mappingText, addressPort, addressPort] at h
    have hname := congrArg (Str.before [':']) h
    have hsource := congrArg (Str.after [':']) h
    rw [Str.before_append_cons hp, Str.before_append_cons hp'] at hname
    rw [Str.after_append_cons hp, Str.after_append_cons hp', Option.some.injEq] at hsource
    refine ⟨hname, ?_⟩
    split at hsource
    · rw [bracket, bracket, List.cons.injEq] at hsource
      exact List.append_cancel_right hsource.2
    · exact hsource
  · rintro ⟨rfl, rfl⟩
    rfl

end Texts

section Events
variable {env : Env} {nb : Nb} {lb row : LoadBalancer} {sm : ServiceMonitor} {t : Dict Str Str}

/-- The mappings have the one that the event of a service monitor looks for. -/
def Searched (env : Env) (sm : ServiceMonitor) (t : Dict Str Str) : Prop :=
  ∃ address source, bracketVip env sm.ip = .ok address ∧ bracketVip env sm.srcIp = .ok source ∧
    t.get? address = some (addressPort sm.logicalPort source)

theorem bracketVip_eq {a : Str} {v : IpVersion} (hv : env.ipVersion a = some v) :
    bracketVip env a = .ok (shown v a) := by
  simp only [bracketVip, Env.version, hv]
  cases v <;> rfl

theorem searched_iff_shown {v w : IpVersion} (hv : env.ipVersion sm.ip = some v)
    (hw : env.ipVersion sm.srcIp = some w) : Searched env sm t ↔
      t.get? (shown v sm.ip) = some (addressPort sm.logicalPort (shown w sm.srcIp)) := by
  rw [Searched, bracketVip_eq hv, bracketVip_eq hw]
  constructor
  · rintro ⟨_, _, ⟨⟩, ⟨⟩, h⟩
    exact h
  · exact fun h => ⟨_, _, rfl, rfl, h⟩

/-- An event is about the rows with its protocol whose mappings have what it looks for. -/
theorem smUpdateEventHandler_finds (hip : (env.ipVersion sm.ip).isSome)
    (hsrc : (env.ipVersion sm.srcIp).isSome) (deleted : Bool) :
    ∃ lbs, (smUpdateEventHandler env sm deleted).run Nb.apply nb =
        (.ok (if lbs = [] then none else some
          { ovnLbs := lbs, ip := sm.ip, port := Str.ofNat sm.port
            offline := sm.offline || deleted }), nb) ∧
      ∀ lb, lb ∈ lbs ↔ lb ∈ nb.loadBalancers ∧ Searched env sm lb.ipPortMappings ∧
        lb.protocol = some sm.protocol := by
  obtain ⟨v, hv⟩ := Option.isSome_iff_exists.mp hip
  obtain ⟨w, hw⟩ := Option.isSome_iff_exists.mp hsrc
  refine ⟨nb.loadBalancers.filter fun lb =>
    lb.ipPortMappings.get? (shown v sm.ip) =
      some (addressPort sm.logicalPort (shown w sm.srcIp)) &&
    lb.protocol = some sm.protocol, ?_, fun lb => ?_⟩
  · simp only [smUpdateEventHandler, Prog.run_bind, Prog.run_ofExcept, bracketVip_eq hv,
      bracketVip_eq hw, Prog.run_get, Prog.run_pure]
  · rw [List.mem_filter, searched_iff_shown hv hw]
    simp

/-- The rows that the handler of the event finds. -/
def lbsOnHmEvent (env : Env) (sm : ServiceMonitor) (deleted : Bool) (nb : Nb) : List LoadBalancer :=
  match ((smUpdateEventHandler env sm deleted).run Nb.apply nb).1 with
  | .ok (some info) => info.ovnLbs
  | _ => []

theorem mem_lbsOnHmEvent (hip : (env.ipVersion sm.ip).isSome)
    (hsrc : (env.ipVersion sm.srcIp).isSome) (deleted : Bool) :
    lb ∈ lbsOnHmEvent env sm deleted nb ↔ lb ∈ nb.loadBalancers ∧
      Searched env sm lb.ipPortMappings ∧ lb.protocol = some sm.protocol := by
  obtain ⟨lbs, hrun, hmem⟩ := @smUpdateEventHandler_finds env nb sm hip hsrc deleted
  rw [← hmem, lbsOnHmEvent, hrun]
  by_cases hnil : lbs = []
  · rw [if_pos hnil, hnil]
  · rw [if_neg hnil]

/-- The event looks for what a call with its port and its source writes. -/
theorem searched_iff (hip : (env.ipVersion sm.ip).isSome)
    (hsrc : env.ipVersion sm.srcIp = env.ipVersion sm.ip) : Searched env sm t ↔
      t.get? (mappingKey env sm.ip) = some (mappingText env sm.ip sm.logicalPort sm.srcIp) := by
  obtain ⟨v, hv⟩ := Option.isSome_iff_exists.mp hip
  rw [searched_iff_shown hv (hsrc.trans hv), mappingKey, mappingText, hv]
  cases v <;> rfl

/-- The last call about an address. -/
def lastAbout (a : Str) (cs : List MappingCall) : Option MappingCall :=
  (cs.filter (·.backendIp = a)).getLast?

/-- The mapping of an address after a sequence of calls. -/
theorem get?_mappingCalls {cs : List MappingCall} (hcs : ∀ c ∈ cs, IsAddress env c.backendIp)
    {a : Str} (ha : IsAddress env a) :
    (t.replay (cs.map (MappingCall.write env))).get? (mappingKey env a) =
      match lastAbout a cs with
      | some c => if c.delete then none else some (mappingText env a c.portName c.srcIp)
      | none => t.get? (mappingKey env a) := by
  have hfilter : (cs.map (MappingCall.write env)).filter (·.key = mappingKey env a) =
      (cs.filter (·.backendIp = a)).map (MappingCall.write env) := by
    rw [List.filter_map]
    refine congrArg _ (List.filter_congr fun c hc => ?_)
    refine decide_eq_decide.mpr ⟨fun h => mappingKey_inj (hcs c hc) ha h, ?_⟩
    rintro rfl
    rfl
  rw [Dict.get?_replay, hfilter, List.getLast?_map, lastAbout]
  cases hlast : (cs.filter (·.backendIp = a)).getLast? with
  | none => rfl
  | some c =>
      have hc : c.backendIp = a := by
        have hm := List.mem_of_getLast? hlast
        simpa using (List.mem_filter.mp hm).2
      rw [Option.map_some, ← hc]
      rfl

/-- A mapping that is added and deleted again is gone, with what was there before, and the
others stay; the handler of an event finds the row exactly if the last call about its address
added what it looks for, or if there was no call and it found the row before. -/
theorem mappings_and_events_agree (hw : nb.WellFormed) (hu : row.uuid = lb.uuid)
    (hrow : nb.lb? lb.uuid = some row) :
    (∀ c : MappingCall, IsAddress env c.backendIp → ∃ row',
      ((Prog.each (MappingCall.run env lb) [{ c with delete := false },
          { c with delete := true }]).run Nb.apply nb).2.lb? lb.uuid = some row' ∧
        row'.ipPortMappings = row.ipPortMappings.erase (mappingKey env c.backendIp) ∧
        ∀ k, k ≠ mappingKey env c.backendIp →
          row'.ipPortMappings.get? k = row.ipPortMappings.get? k) ∧
    ∀ (cs : List MappingCall) (sm : ServiceMonitor) (deleted : Bool), (∀ c ∈ cs, c.Proper env) →
      IsAddress env sm.ip → env.ipVersion sm.srcIp = env.ipVersion sm.ip →
      ':' ∉ sm.logicalPort → ∃ row',
      ((Prog.each (MappingCall.run env lb) cs).run Nb.apply nb).2.lb? lb.uuid = some row' ∧
        (row' ∈ lbsOnHmEvent env sm deleted
            ((Prog.each (MappingCall.run env lb) cs).run Nb.apply nb).2 ↔
          match lastAbout sm.ip cs with
          | some c => row.protocol = some sm.protocol ∧ c.delete = false ∧
              c.portName = sm.logicalPort ∧ c.srcIp = sm.srcIp
          | none => row ∈ lbsOnHmEvent env sm deleted nb) := by
  have hafter : ∀ cs : List MappingCall, (∀ c ∈ cs, (env.ipVersion c.backendIp).isSome) →
      ((Prog.each (MappingCall.run env lb) cs).run Nb.apply nb).2.lb? lb.uuid =
        some { row with
          ipPortMappings := row.ipPortMappings.replay (cs.map (MappingCall.write env)) } := by
    intro cs hcs
    rw [run_mappingCalls hw hu hrow hcs]
    exact hu ▸ Nb.lb?_putLb { row with
      ipPortMappings := row.ipPortMappings.replay (cs.map (MappingCall.write env)) } (hu ▸ hrow)
  constructor
  · intro c hc
    refine ⟨_, hafter _ (by simp [hc.1]), ?_, fun k hk => ?_⟩
    · exact Dict.erase_set_same _ _ _
    · rw [Dict.get?_replay]
      have hne : mappingKey env c.backendIp ≠ k := fun h => hk h.symm
      simp [MappingCall.write, hne]
  · intro cs sm deleted hcs hip hsrc hport
    have hlook := hafter cs fun c hc => (hcs c hc).address.1
    have hsource : (env.ipVersion sm.srcIp).isSome := hsrc ▸ hip.1
    refine ⟨_, hlook, ?_⟩
    rw [mem_lbsOnHmEvent hip.1 hsource, and_iff_right (Nb.lb?_eq_some hlook).1,
      searched_iff hip.1 hsrc, get?_mappingCalls (fun c hc => (hcs c hc).address) hip]
    cases hlast : lastAbout sm.ip cs with
    | none =>
        dsimp only
        rw [mem_lbsOnHmEvent hip.1 hsource, and_iff_right (Nb.lb?_eq_some hrow).1,
          searched_iff hip.1 hsrc]
    | some c =>
        have hc : c ∈ cs := List.mem_of_mem_filter (List.mem_of_getLast? hlast)
        dsimp only
        rw [and_comm (a := row.protocol = some sm.protocol)]
        cases hdelete : c.delete with
        | true => simp
        | false =>
            rw [if_neg Bool.false_ne_true, Option.some.injEq,
              mappingText_inj ((hcs c hc).port hdelete) hport, and_iff_right rfl]

end Events

section Example

/-- Two members, one of each version, are mapped; the mapping of the first is deleted. -/
def exampleCalls : List MappingCall :=
  [⟨"10.0.0.7".toList, "vm".toList, "10.0.0.3".toList, false⟩,
    ⟨"fd00::7".toList, "vm".toList, "fd00::3".toList, false⟩,
    ⟨"10.0.0.7".toList, [], [], true⟩]

def exampleV6Monitor : ServiceMonitor :=
  { ip := "fd00::7".toList, port := 8080, srcIp := "fd00::3".toList, logicalPort := "vm".toList
    protocol := .tcp, offline := true }

theorem proper_exampleCalls : ∀ c ∈ exampleCalls, c.Proper exampleEnv := by
  intro c hc
  simp only [exampleCalls, List.mem_cons, List.not_mem_nil, or_false] at hc
  rcases hc with rfl | rfl | rfl
  · exact ⟨⟨by decide, by simp⟩, by simp⟩
  · exact ⟨⟨by decide, by simp⟩, by simp⟩
  · exact ⟨⟨by decide, by simp⟩, by simp⟩

theorem mappings_and_events_agree_example :
    (∃ row', ((Prog.each (MappingCall.run exampleEnv exampleServingRow)
        [⟨"fd00::7".toList, "vm".toList, "fd00::3".toList, false⟩,
          ⟨"fd00::7".toList, "vm".toList, "fd00::3".toList, true⟩]).run
            Nb.apply exampleServingNb).2.lb? exampleServingRow.uuid = some row' ∧
      row'.ipPortMappings =
        exampleServingRow.ipPortMappings.erase (mappingKey exampleEnv "fd00::7".toList) ∧
      ∀ k, k ≠ mappingKey exampleEnv "fd00::7".toList →
        row'.ipPortMappings.get? k = exampleServingRow.ipPortMappings.get? k) ∧
    ∃ row', ((Prog.each (MappingCall.run exampleEnv exampleServingRow) exampleCalls).run
        Nb.apply exampleServingNb).2.lb? exampleServingRow.uuid = some row' ∧
      row' ∈ lbsOnHmEvent exampleEnv exampleV6Monitor false
        ((Prog.each (MappingCall.run exampleEnv exampleServingRow) exampleCalls).run
          Nb.apply exampleServingNb).2 := by
  obtain ⟨hundo, hfind⟩ := @mappings_and_events_agree exampleEnv exampleServingNb
    exampleServingRow exampleServingRow ⟨by decide, by decide⟩ rfl (by decide +kernel)
  refine ⟨hundo ⟨"fd00::7".toList, "vm".toList, "fd00::3".toList, false⟩ ⟨by decide, by simp⟩, ?_⟩
  obtain ⟨row', hrow', hiff⟩ := hfind exampleCalls exampleV6Monitor false proper_exampleCalls
    ⟨by decide, by simp [exampleV6Monitor]⟩ (by decide) (by decide)
  have hlast : lastAbout exampleV6Monitor.ip exampleCalls =
      some ⟨"fd00::7".toList, "vm".toList, "fd00::3".toList, false⟩ := by decide
  rw [hlast] at hiff
  exact ⟨row', hrow', hiff.mpr ⟨rfl, rfl, rfl, rfl⟩⟩

end Example

end OvnOctavia

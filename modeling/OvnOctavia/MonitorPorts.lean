import Mathlib.Data.List.TakeWhile
import OvnOctavia.PortMappings
import OvnOctavia.Reenabling

/-!
The ports that health checks are sent from, when they are cleaned up. The loop over the
ports of a subnet looks for an address anywhere in a mapping, keeps the last address it has
seen and ends at the first port it takes to be in use.
-/

namespace OvnOctavia

section Use

/-- The source of a mapping is the address, in brackets or not. -/
def Sourced (v a : Str) : Prop :=
  Str.after [':'] v = some a ∨ Str.after [':'] v = some (bracket a)

/-- The mappings of the load balancers with health checks. -/
def monitoredMappings (nb : Nb) : List Str :=
  (nb.loadBalancers.filter (·.healthCheck ≠ [])).flatMap fun lb =>
    lb.ipPortMappings.items.map Prod.snd

/-- A load balancer with health checks has them sent from the address. -/
def SentFrom (nb : Nb) (a : Str) : Prop := ∃ v ∈ monitoredMappings nb, Sourced v a

/-- The addresses of a port in a subnet. -/
def Port.addressesIn (subnetId : Str) (port : Port) : List Str :=
  (port.fixedIps.filter (·.subnetId = subnetId)).map FixedIp.ipAddress

theorem contains_of_sourced {v a : Str} (h : Sourced v a) : Str.contains a v = true := by
  rw [Str.contains_iff]
  rcases h with h | h
  · exact (Str.isSuffix_of_after h).isInfix
  · have hbracket : a <:+: bracket a := ⟨['['], [']'], rfl⟩
    exact hbracket.trans (Str.isSuffix_of_after h).isInfix

/-- The loop does not end at the port: it has no address, or its last one occurs nowhere in
a mapping. -/
def passed (monitored : List Str) (subnetId : Str) (port : Port) : Bool :=
  match (port.addressesIn subnetId).getLast? with
  | none => true
  | some a => !monitored.any (Str.contains a)

/-- A port that is passed with an address. -/
theorem not_sentFrom_of_passed {nb : Nb} {subnetId : Str} {port : Port}
    (h : passed (monitoredMappings nb) subnetId port = true)
    (ha : port.addressesIn subnetId ≠ []) :
    ∃ a ∈ port.addressesIn subnetId, ¬ SentFrom nb a := by
  obtain ⟨a, hlast⟩ : ∃ a, (port.addressesIn subnetId).getLast? = some a :=
    Option.isSome_iff_exists.mp (List.getLast?_isSome.mpr ha)
  refine ⟨a, List.mem_of_getLast? hlast, ?_⟩
  rintro ⟨v, hv, hs⟩
  simp only [passed, hlast, Bool.not_eq_true'] at h
  exact List.any_eq_false.mp h v hv (contains_of_sourced hs)

end Use

section Loop
variable {env : Env} {nb : Nb} {subnetId a : Str} {monitored : List Str} {ports : List Port}

/-- A port whose deletion succeeds or that is gone already. -/
def Env.Deletes (env : Env) (id : Str) : Prop :=
  env.deletePort id = .ok () ∨ env.deletePort id = .error .resourceNotFound

theorem run_deletePort {id : Str} (h : env.Deletes id) : (deletePort env id).run Nb.apply nb =
    (.ok (), { nb with deletedPorts := nb.deletedPorts ++ [id] }) := by
  simp only [deletePort, Prog.run_bind, Prog.run_execute]
  rcases h with h | h
  · rw [h]
    rfl
  · rw [h]
    rfl

theorem cleanUpHmPorts_cons (seen : Option Str) (port : Port) (ports : List Port) :
    cleanUpHmPorts env subnetId monitored seen (port :: ports) =
      match (port.addressesIn subnetId).getLast?.or seen with
      | some (c :: ip) =>
          if monitored.any (Str.contains (c :: ip)) then pure () else do
            deletePort env port.id
            cleanUpHmPorts env subnetId monitored (some (c :: ip)) ports
      | seen => cleanUpHmPorts env subnetId monitored seen ports := rfl

/-- Once an address has been seen every port up to the end of the loop is deleted. -/
theorem run_cleanUpHmPorts_seen (ha : a ≠ []) (hseen : monitored.any (Str.contains a) = false)
    (hips : ∀ p ∈ ports, [] ∉ p.addressesIn subnetId) (hd : ∀ p ∈ ports, env.Deletes p.id) :
    (cleanUpHmPorts env subnetId monitored (some a) ports).run Nb.apply nb =
      (.ok (), { nb with deletedPorts :=
        nb.deletedPorts ++ (ports.takeWhile (passed monitored subnetId)).map Port.id }) := by
  induction ports generalizing nb a with
  | nil =>
      rw [List.takeWhile_nil, List.map_nil, List.append_nil]
      rfl
  | cons port ports ih =>
      have hrest : ∀ (b : Str), b ≠ [] → monitored.any (Str.contains b) = false →
          passed monitored subnetId port = true →
          (do deletePort env port.id
              cleanUpHmPorts env subnetId monitored (some b) ports).run Nb.apply nb =
            (.ok (), { nb with deletedPorts := nb.deletedPorts ++
              ((port :: ports).takeWhile (passed monitored subnetId)).map Port.id }) := by
        intro b hb hnone hpass
        rw [Prog.run_bind, run_deletePort (hd port (List.mem_cons_self ..))]
        dsimp only
        rw [ih hb hnone (fun p hp => hips p (List.mem_cons_of_mem _ hp))
          fun p hp => hd p (List.mem_cons_of_mem _ hp), List.takeWhile_cons_of_pos hpass,
          List.map_cons, List.append_assoc, List.singleton_append]
      rw [cleanUpHmPorts_cons]
      cases hlast : (port.addressesIn subnetId).getLast? with
      | none =>
          obtain ⟨c, ip, rfl⟩ := List.exists_cons_of_ne_nil ha
          simp only [Option.none_or, hseen, Bool.false_eq_true, if_false]
          exact hrest (c :: ip) ha hseen (by rw [passed, hlast])
      | some b =>
          have hb : b ≠ [] := fun h => hips port (List.mem_cons_self ..)
            (h ▸ List.mem_of_getLast? hlast)
          obtain ⟨c, ip, rfl⟩ := List.exists_cons_of_ne_nil hb
          simp only [Option.some_or]
          cases hany : monitored.any (Str.contains (c :: ip)) with
          | false =>
              simp only [Bool.false_eq_true, if_false]
              exact hrest (c :: ip) hb hany (by simp only [passed, hlast, hany, Bool.not_false])
          | true =>
              have hstop : ¬ passed monitored subnetId port = true := by
                simp only [passed, hlast, hany, Bool.not_true, Bool.false_eq_true,
                  not_false_eq_true]
              rw [List.takeWhile_cons_of_neg hstop, List.map_nil, List.append_nil]
              rfl

/-- The ports that the loop deletes: those before its end, from the first with an address. -/
def swept (monitored : List Str) (subnetId : Str) (ports : List Port) : List Port :=
  (ports.takeWhile (passed monitored subnetId)).dropWhile (·.addressesIn subnetId = [])

theorem run_cleanUpHmPorts (hips : ∀ p ∈ ports, [] ∉ p.addressesIn subnetId)
    (hd : ∀ p ∈ ports, env.Deletes p.id) :
    (cleanUpHmPorts env subnetId monitored none ports).run Nb.apply nb =
      (.ok (), { nb with deletedPorts :=
        nb.deletedPorts ++ (swept monitored subnetId ports).map Port.id }) := by
  induction ports with
  | nil =>
      rw [swept, List.takeWhile_nil, List.dropWhile_nil, List.map_nil, List.append_nil]
      rfl
  | cons port ports ih =>
      have hips' : ∀ p ∈ ports, [] ∉ p.addressesIn subnetId :=
        fun p hp => hips p (List.mem_cons_of_mem _ hp)
      have hd' : ∀ p ∈ ports, env.Deletes p.id := fun p hp => hd p (List.mem_cons_of_mem _ hp)
      rw [cleanUpHmPorts_cons]
      cases hlast : (port.addressesIn subnetId).getLast? with
      | none =>
          have hempty : port.addressesIn subnetId = [] := List.getLast?_eq_none_iff.mp hlast
          have hpass : passed monitored subnetId port = true := by rw [passed, hlast]
          simp only [Option.or_none]
          rw [ih hips' hd', swept, swept, List.takeWhile_cons_of_pos hpass,
            List.dropWhile_cons_of_pos (by simpa using hempty)]
      | some b =>
          have hmem := List.mem_of_getLast? hlast
          have hb : b ≠ [] := fun h => hips port (List.mem_cons_self ..) (h ▸ hmem)
          have hdrop : ∀ l, (port :: l).dropWhile (·.addressesIn subnetId = []) = port :: l :=
            fun l => List.dropWhile_cons_of_neg (by simpa using List.ne_nil_of_mem hmem)
          obtain ⟨c, ip, rfl⟩ := List.exists_cons_of_ne_nil hb
          simp only [Option.or_none]
          cases hany : monitored.any (Str.contains (c :: ip)) with
          | false =>
              have hpass : passed monitored subnetId port = true := by
                simp only [passed, hlast, hany, Bool.not_false]
              simp only [Bool.false_eq_true, if_false]
              rw [Prog.run_bind, run_deletePort (hd port (List.mem_cons_self ..))]
              dsimp only
              rw [run_cleanUpHmPorts_seen hb hany hips' hd', swept,
                List.takeWhile_cons_of_pos hpass, hdrop, List.map_cons,
                List.append_assoc, List.singleton_append]
          | true =>
              have hstop : ¬ passed monitored subnetId port = true := by
                simp only [passed, hlast, hany, Bool.not_true, Bool.false_eq_true,
                  not_false_eq_true]
              rw [swept, List.takeWhile_cons_of_neg hstop, List.dropWhile_nil, List.map_nil,
                List.append_nil]
              rfl

/-- The ports with the name of the subnet are cleaned up. -/
theorem run_cleanUpHmPort (hn : env.neutronClient = .ok ())
    (hlist : env.listPortsByName (lbHmPortPrefix ++ subnetId) = .ok ports)
    (hips : ∀ p ∈ ports, [] ∉ p.addressesIn subnetId) (hd : ∀ p ∈ ports, env.Deletes p.id) :
    (cleanUpHmPort env subnetId).run Nb.apply nb = (.ok (), { nb with deletedPorts :=
      nb.deletedPorts ++ (swept (monitoredMappings nb) subnetId ports).map Port.id }) := by
  simp only [cleanUpHmPort, Prog.run_bind, Prog.run_ofExcept, hn, hlist, Prog.run_get]
  exact run_cleanUpHmPorts hips hd

end Loop

section Unused
variable {env : Env} {nb : Nb} {subnetId : Str} {ports : List Port} {p : Port}

/-- A port has an address in the subnet that no health checks are sent from. -/
def Unused (nb : Nb) (subnetId : Str) (p : Port) : Prop :=
  ∃ a ∈ p.addressesIn subnetId, ¬ SentFrom nb a

/-- The clean-up deletes the unused ports of the subnet, and no others. -/
def DeletesUnused (env : Env) (nb : Nb) (subnetId : Str) (ports : List Port) : Prop :=
  ∃ deleted : List Port, (∀ p ∈ deleted, p ∈ ports) ∧
    (cleanUpHmPort env subnetId).run Nb.apply nb =
      (.ok (), { nb with deletedPorts := nb.deletedPorts ++ deleted.map Port.id }) ∧
    ∀ p ∈ ports, p.id ∈ deleted.map Port.id ↔ Unused nb subnetId p

theorem mem_swept_of_passed {monitored : List Str}
    (hp : p ∈ ports.takeWhile (passed monitored subnetId)) (ha : p.addressesIn subnetId ≠ []) :
    p ∈ swept monitored subnetId ports := by
  have hsplit := List.takeWhile_append_dropWhile
    (p := fun q : Port => decide (q.addressesIn subnetId = []))
    (l := ports.takeWhile (passed monitored subnetId))
  rw [← hsplit, List.mem_append] at hp
  rcases hp with hp | hp
  · exact absurd (by simpa using List.mem_takeWhile_imp hp) ha
  · exact hp

/-- The clean-up is right exactly if the ports up to its end that are without an address come
before those with one, and the addresses of the ports from there on are all in use. -/
theorem deletesUnused_iff (hn : env.neutronClient = .ok ())
    (hlist : env.listPortsByName (lbHmPortPrefix ++ subnetId) = .ok ports)
    (hids : (ports.map Port.id).Nodup) (hips : ∀ p ∈ ports, [] ∉ p.addressesIn subnetId)
    (hd : ∀ p ∈ ports, env.Deletes p.id) : DeletesUnused env nb subnetId ports ↔
      (∀ p ∈ swept (monitoredMappings nb) subnetId ports, p.addressesIn subnetId ≠ []) ∧
      ∀ p ∈ ports.dropWhile (passed (monitoredMappings nb) subnetId),
        ∀ a ∈ p.addressesIn subnetId, SentFrom nb a := by
  have hrun := @run_cleanUpHmPort env nb subnetId ports hn hlist hips hd
  have hsplit := List.takeWhile_append_dropWhile
    (p := passed (monitoredMappings nb) subnetId) (l := ports)
  have hsub : ∀ p ∈ swept (monitoredMappings nb) subnetId ports,
      p ∈ ports.takeWhile (passed (monitoredMappings nb) subnetId) :=
    fun p hp => (List.dropWhile_sublist _).subset hp
  have hports : ∀ p ∈ swept (monitoredMappings nb) subnetId ports, p ∈ ports :=
    fun p hp => (List.takeWhile_sublist _).subset (hsub p hp)
  have hmem : ∀ {l : List Port}, (∀ q ∈ l, q ∈ ports) → ∀ p ∈ ports,
      p.id ∈ l.map Port.id ↔ p ∈ l := by
    intro l hl p hp
    refine ⟨fun h => ?_, List.mem_map_of_mem⟩
    obtain ⟨q, hq, he⟩ := List.mem_map.mp h
    exact List.inj_on_of_nodup_map hids (hl q hq) hp he ▸ hq
  constructor
  · rintro ⟨deleted, hdeleted, hrun', hiff⟩
    have hsame : deleted.map Port.id = (swept (monitoredMappings nb) subnetId ports).map Port.id :=
      List.append_cancel_left (congrArg (fun r => r.2.deletedPorts) (hrun'.symm.trans hrun))
    have hswept : ∀ p ∈ ports, p ∈ swept (monitoredMappings nb) subnetId ports ↔
        Unused nb subnetId p := by
      intro p hp
      rw [← hmem hports p hp, ← hsame, hiff p hp]
    constructor
    · intro p hp
      obtain ⟨a, ha, -⟩ := (hswept p (hports p hp)).mp hp
      exact List.ne_nil_of_mem ha
    · intro p hp a ha
      have hin : p ∈ ports := (List.dropWhile_sublist _).subset hp
      by_contra hunused
      have htake := hsub p ((hswept p hin).mpr ⟨a, ha, hunused⟩)
      have hdisjoint : (ports.takeWhile (passed (monitoredMappings nb) subnetId)).Disjoint
          (ports.dropWhile (passed (monitoredMappings nb) subnetId)) := by
        have hnodup : ports.Nodup := hids.of_map
        rw [← hsplit] at hnodup
        exact List.disjoint_of_nodup_append hnodup
      exact hdisjoint htake hp
  · rintro ⟨hhas, hused⟩
    refine ⟨_, hports, hrun, fun p hp => ?_⟩
    rw [hmem hports p hp]
    constructor
    · intro hs
      exact not_sentFrom_of_passed (List.mem_takeWhile_imp (hsub p hs)) (hhas p hs)
    · rintro ⟨a, ha, hunused⟩
      rw [← hsplit, List.mem_append] at hp
      rcases hp with hp | hp
      · exact mem_swept_of_passed hp (List.ne_nil_of_mem ha)
      · exact absurd (hused p hp a ha) hunused

end Unused

section Example

/-- A port for the health checks of a subnet. -/
def exampleHmPort : Port :=
  ⟨"hm".toList, "net".toList, [⟨"sub".toList, "10.0.0.3".toList⟩]⟩

def exampleHmEnv : Env := { exampleEnv with listPortsByName := fun _ => .ok [exampleHmPort] }

/-- A load balancer with health checks that are sent from the given address. -/
def exampleSentNb (srcIp : Str) : Nb := { exampleServingNb with
  loadBalancers := [{ exampleServingRow with
    healthCheck := [3]
    ipPortMappings := .single "10.0.0.7".toList ("vm:".toList ++ srcIp) }] }

/-- The address of the unused port is the beginning of another one, and the port stays. -/
theorem not_deletesUnused_prefix : ¬ DeletesUnused exampleHmEnv (exampleSentNb "10.0.0.30".toList)
    "sub".toList [exampleHmPort] := by
  rintro ⟨deleted, -, hrun, hiff⟩
  have hkept : ((cleanUpHmPort exampleHmEnv "sub".toList).run Nb.apply
      (exampleSentNb "10.0.0.30".toList)).2.deletedPorts = [] := by decide +kernel
  rw [hrun] at hkept
  have hnone : deleted.map Port.id = [] := (List.append_eq_nil_iff.mp hkept).2
  have hunused : Unused (exampleSentNb "10.0.0.30".toList) "sub".toList exampleHmPort := by
    refine ⟨"10.0.0.3".toList, by decide, ?_⟩
    rintro ⟨v, hv, hs⟩
    have hmonitored : monitoredMappings (exampleSentNb "10.0.0.30".toList) =
        ["vm:10.0.0.30".toList] := by decide +kernel
    rw [hmonitored] at hv
    rw [List.mem_singleton.mp hv] at hs
    revert hs
    unfold Sourced
    decide
  have hin := (hiff exampleHmPort (List.mem_singleton_self _)).mpr hunused
  rw [hnone] at hin
  cases hin

theorem deletesUnused_example : DeletesUnused exampleHmEnv (exampleSentNb "10.0.0.9".toList)
    "sub".toList [exampleHmPort] := by
  have hall : [exampleHmPort].dropWhile (passed (monitoredMappings
      (exampleSentNb "10.0.0.9".toList)) "sub".toList) = [] := by decide +kernel
  refine (deletesUnused_iff rfl rfl (by decide) (by decide) ?_).mpr ⟨by decide +kernel, ?_⟩
  · exact fun p _ => .inl rfl
  · rw [hall]
    nofun

end Example

end OvnOctavia

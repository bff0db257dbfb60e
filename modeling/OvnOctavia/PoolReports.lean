import OvnOctavia.ProtocolRows
import OvnOctavia.RequestKeys

/-!
What an update of a pool reports. The state is read from the request once more after
the commit, so an update without one reports an error for a change that was made; and
the removal of a session persistence is reported although nothing is removed.
-/

namespace OvnOctavia

section Updating
variable {env : Env} {nb nb' : Nb} {info : PoolInfo} {row row' : LoadBalancer} {up : Bool}

/-- The request asks for a change. -/
def PoolInfo.Asks (info : PoolInfo) : Prop :=
  info.adminStateUp.isSome ∨ info.sessionPersistence.isSome

/-- `pool_update` up to its commit. -/
def poolUpdateCommit (env : Env) (info : PoolInfo) (ovnLb : LoadBalancer)
    (present : Dict Str Str) : Nbctl Unit := do
  let moved ← match info.adminStateUp with
    | none => pure []
    | some up =>
        movePoolKey env ovnLb (getPoolKey info.id (!up)) (getPoolKey info.id up) present
  let row ← readLb ovnLb
  executeCommands (moved ++ updateAffinity row info)

theorem run_poolUpdateOn_eq (env : Env) (info : PoolInfo) (ovnLb : LoadBalancer)
    (present : Dict Str Str) (nb : Nb) :
    (poolUpdateOn env info ovnLb present).run Nb.apply nb =
      match (poolUpdateCommit env info ovnLb present).run Nb.apply nb with
      | (.error e, s) => (.error e, s)
      | (.ok _, s) =>
          match info.adminStateUp with
          | none => (.error .keyError, s)
          | some up => (.ok (if up then ONLINE else OFFLINE), s) := by
  simp only [poolUpdateOn, poolUpdateCommit]
  cases info.adminStateUp with
  | none =>
      simp only [Prog.run_bind, Prog.run_pure, run_readLb]
      rcases (executeCommands ([] ++ updateAffinity (ovnLb.live nb) info)).run Nb.apply nb with
        ⟨_ | _, s⟩
      · rfl
      · rfl
  | some up =>
      simp only [Prog.run_bind, run_readLb]
      rcases (movePoolKey env ovnLb (getPoolKey info.id (!up)) (getPoolKey info.id up)
        present).run Nb.apply nb with ⟨_ | moved, s⟩
      · rfl
      · dsimp only
        rcases (executeCommands (moved ++ updateAffinity (ovnLb.live s) info)).run Nb.apply s with
          ⟨_ | _, s'⟩
        · rfl
        · rfl

/-- Without an admin state only the persistence is written. -/
theorem run_poolUpdateCommit_none (hw : nb.WellFormed) (h : nb.lb? row.uuid = some row)
    (hup : info.adminStateUp = none) :
    (poolUpdateCommit env info row row.externalIds).run Nb.apply nb =
      (.ok (), nb.putLb { row with
        options := affinityOptions (updatedTimeout info) row.options }) := by
  simp only [poolUpdateCommit, hup, Prog.run_bind, Prog.run_pure, run_readLb, live_of_lb? h,
    List.nil_append]
  rw [run_executeUpdates hw h _ (updateAffinity_eq rfl info), foldl_affinityOps _ rfl]

/-- With one the pool's key is moved as well, unless the members cannot be read. -/
theorem run_poolUpdateCommit_some (hw : nb.WellFormed) (h : nb.lb? row.uuid = some row)
    (hup : info.adminStateUp = some up) :
    (poolUpdateCommit env info row row.externalIds).run Nb.apply nb =
      let externalIds :=
        movedPoolKeys (getPoolKey info.id (!up)) (getPoolKey info.id up) row.externalIds
      match (if row.externalIds.contains (getPoolKey info.id (!up)) then
          frameVipIps env row.externalIds externalIds else .ok row.vips) with
      | .error e => (.error e, nb)
      | .ok vips => (.ok (), nb.putLb { row with
          externalIds, vips, options := affinityOptions (updatedTimeout info) row.options }) := by
  have heq := run_poolUpdateOn_eq env info row row.externalIds nb
  rw [run_poolUpdateOn env hw h info hup, hup] at heq
  dsimp only at heq ⊢
  generalize (poolUpdateCommit env info row row.externalIds).run Nb.apply nb = committed at heq ⊢
  generalize (if row.externalIds.contains (getPoolKey info.id (!up)) then
    frameVipIps env row.externalIds (movedPoolKeys (getPoolKey info.id (!up))
      (getPoolKey info.id up) row.externalIds) else .ok row.vips) = framed at heq ⊢
  obtain ⟨e | _, s⟩ := committed
  · cases framed with
    | error e' =>
        cases heq
        rfl
    | ok vips => cases heq
  · cases framed with
    | error e' => cases heq
    | ok vips =>
        cases heq
        rfl

theorem get?_affinityOptions (timeout : Str) (options : Dict Str Str) :
    (affinityOptions (some timeout) options).get? affinityTimeout = some timeout := by
  rw [affinityOptions, Dict.get?_update, Dict.get?_set_self, Option.some_or]

/-- The reply to an update of a row that is found follows the transaction. -/
theorem run_poolUpdate_found (env : Env) (hw : nb.WellFormed) (hasks : info.Asks)
    (hsel : selectOvnLb info.protocol (nb.lbsNamed info.loadbalancerId) = .ok row) :
    (poolUpdate env info).run Nb.apply nb =
      let listeners := getPoolListeners row.externalIds (getPoolKey info.id true)
      match (poolUpdateOn env info row row.externalIds).run Nb.apply nb with
      | (.ok operatingStatus, nb') =>
          (.ok (poolStatusOf info ACTIVE (some operatingStatus) ACTIVE (some listeners)), nb')
      | (.error _, nb') => (.ok (poolStatusOf info ERROR none ACTIVE (some listeners)), nb') := by
  have hrow := hw.lb?_of_mem (Nb.mem_lbsNamed.mp (selectOvnLb_ok hsel).1).1
  have hn : ¬(info.adminStateUp.isNone && info.sessionPersistence.isNone) = true := by
    rcases hasks with h | h
    · simp [Option.isNone_eq_false_iff.mpr h]
    · simp [Option.isNone_eq_false_iff.mpr h]
  rw [poolUpdate, if_neg hn]
  simp only [Prog.run_bind, Prog.run_attempt, run_findOvnLb, hsel, run_readLb, live_of_lb? hrow]
  rcases (poolUpdateOn env info row row.externalIds).run Nb.apply nb with ⟨_ | _, nb'⟩
  · rfl
  · rfl

end Updating

section Example

/-- The row of a load balancer with one pool and the given options. -/
def examplePooledRow (options : Dict Str Str) : LoadBalancer :=
  { uuid := 2, name := exampleId 'a', protocol := some .tcp, vips := ∅
    externalIds := .single (getPoolKey (exampleId 'c') true) [], options
    selectionFields := [], healthCheck := [], ipPortMappings := ∅ }

def examplePooled (options : Dict Str Str) : Nb :=
  { exampleNb with loadBalancers := [examplePooledRow options], nextUuid := 3 }

/-- An update of the pool of the row. -/
def examplePoolUpdate (adminStateUp : Option Bool)
    (sessionPersistence : Option (Option Persistence)) : PoolInfo :=
  { id := exampleId 'c', loadbalancerId := exampleId 'a', protocol := .tcp
    adminStateUp, sessionPersistence }

theorem wellFormed_examplePooled (options : Dict Str Str) : (examplePooled options).WellFormed :=
  ⟨List.nodup_singleton 2, fun row hm => by rw [List.mem_singleton.mp hm]; exact Nat.lt_succ_self 2⟩

end Example

end OvnOctavia

import Mathlib.Logic.Relation
import OvnOctavia.Library.Shared
import OvnOctavia.PoolReports

/-!
The session affinity of a row. One option stands for the persistence of all its pools:
a pool writes it when it is created or updated, a removed persistence leaves it, and
the deletion of any pool takes it away.
-/

namespace OvnOctavia

section Requests

inductive PoolRequest where
  | create (info : PoolInfo)
  | update (info : PoolInfo)
  | delete (info : PoolInfo)

def PoolRequest.info : PoolRequest → PoolInfo
  | create info | update info | delete info => info

def PoolRequest.request : PoolRequest → Request
  | create info => .poolCreate info
  | update info => .poolUpdate info
  | delete info => .poolDelete info

/-- The database, and the pools of the row with the persistence that each of them has. -/
structure PoolState where
  nb : Nb
  pools : Dict Str (Option Persistence)

/-- The commit of the request, with the row it finds or is given. -/
def PoolRequest.commit (env : Env) (nb : Nb) : PoolRequest → Except Exc Unit
  | create info =>
      match info.adminStateUp with
      | none => .error .keyError
      | some up => ((getOrCreateOvnLb env info.loadbalancerId info.protocol up
          info.lbAlgorithm).run Nb.apply nb).1.map fun _ => ()
  | update info =>
      match selectOvnLb info.protocol (nb.lbsNamed info.loadbalancerId) with
      | .error e => .error e
      | .ok row => ((poolUpdateCommit env info row row.externalIds).run Nb.apply nb).1
  | delete info =>
      match selectOvnLb info.protocol (nb.lbsNamed info.loadbalancerId) with
      | .error e => .error e
      | .ok row => ((poolDeleteOn env info row row.externalIds).run Nb.apply nb).1

/-- What the request makes of the pools. -/
def PoolRequest.track (pools : Dict Str (Option Persistence)) :
    PoolRequest → Dict Str (Option Persistence)
  | create info => pools.set info.id info.sessionPersistence.join
  | update info =>
      match info.sessionPersistence with
      | none => pools
      | some persistence => pools.set info.id persistence
  | delete info => pools.erase info.id

def PoolState.next (env : Env) (s : PoolState) (r : PoolRequest) : PoolState where
  nb := handled env r.request s.nb
  pools :=
    match r.commit env s.nb with
    | .error _ => s.pools
    | .ok _ => r.track s.pools

/-- The request works on the row `u`: a new pool is given it, a pool that exists is
found on it. -/
def PoolRequest.Acts (env : Env) (u : Nat) (s : PoolState) : PoolRequest → Prop
  | create info => s.pools.get? info.id = none ∧ ∃ up row, info.adminStateUp = some up ∧
      ((getOrCreateOvnLb env info.loadbalancerId info.protocol up info.lbAlgorithm).run
        Nb.apply s.nb).1 = .ok row ∧ row.uuid = u
  | update info | delete info => (s.pools.get? info.id).isSome ∧ ∃ row,
      selectOvnLb info.protocol (s.nb.lbsNamed info.loadbalancerId) = .ok row ∧ row.uuid = u

/-- The affinity timeout of the row, where it is left, is that of its pools. -/
def AffinityExact (u : Nat) (s : PoolState) : Prop :=
  ∀ row, s.nb.lb? u = some row →
    Shared.InStep s.pools Persistence.timeoutText (row.options.get? affinityTimeout)

/-- The request leaves the timeout to the pools that hold it. -/
def PoolRequest.SparesAffinity (u : Nat) (s : PoolState) : PoolRequest → Prop
  | create info => ∀ p, info.sessionPersistence = some (some p) →
      p.hasTimeout = true ∨ ∃ j q, s.pools.get? j = some (some q)
  | update info => info.sessionPersistence = some none →
      ∀ row timeout, s.nb.lb? u = some row → row.options.get? affinityTimeout = some timeout →
        ∃ q, Shared.HeldBeside s.pools info.id q ∧ q.timeoutText = timeout
  | delete info => ∀ q, ¬Shared.HeldBeside s.pools info.id q

end Requests

section Options
variable {env : Env} {nb nb' : Nb} {info : PoolInfo} {row row' : LoadBalancer} {u : Nat}

/-- A row that a new pool is given was there, with the same options. -/
theorem getOrCreateOvnLb_existing (hw : nb.WellFormed) {lbId : Str} {p : Protocol} {up : Bool}
    {alg : Option LbAlgorithm} (hlt : row.uuid < nb.nextUuid)
    (hrun : (getOrCreateOvnLb env lbId p up alg).run Nb.apply nb = (.ok row, nb')) :
    ∃ old, nb.lb? row.uuid = some old ∧ row.options = old.options := by
  obtain ⟨hm, hp⟩ := getOrCreateOvnLb_row hw hrun
  have hprovided := getOrCreateOvnLb_provided env hw lbId p up alg
  rw [hrun] at hprovided
  rcases hprovided with rfl | hprovided
  · exact ⟨row, hw.lb?_of_mem (Nb.mem_lbsNamed.mp hm).1, rfl⟩
  · cases hprovided with
    | failed hnone h =>
        obtain ⟨old, hold, hs⟩ := h.exists_of_mem_named hm
        exact absurd (hs.protocol.symm.trans hp) (hnone old hold).2
    | @assigned old hold hnone hother =>
        have hget := hw.lb?_of_mem (Nb.mem_lbsNamed.mp hold).1
        have hput : nb.lb? ({ old with protocol := some p } : LoadBalancer).uuid = some old := hget
        rcases (Nb.mem_putLb hput).mp (Nb.mem_lbsNamed.mp hm).1 with rfl | ⟨hrow, -⟩
        · exact ⟨old, hget, rfl⟩
        · exact ⟨row, hw.lb?_of_mem hrow, rfl⟩
    | created hfirst hnone hvip hport h =>
        obtain ⟨old, hold, hs⟩ := h.exists_of_mem_named hm
        obtain ⟨hold, hname⟩ := Nb.mem_lbsNamed.mp hold
        rcases List.mem_append.mp hold with hold | hold
        · exact absurd (hs.protocol.symm.trans hp) (hnone old (Nb.mem_lbsNamed.mpr ⟨hold, hname⟩)).2
        · rw [hs.uuid, List.mem_singleton.mp hold] at hlt
          exact absurd hlt (Nat.lt_irrefl _)

/-- A row that is cleaned keeps its options, as long as it is there. -/
theorem Nb.options_cleaned {new : LoadBalancer} {lbId : Str} {isEmpty : Bool}
    (hrow : nb.lb? new.uuid = some row)
    (h : (nb.cleaned lbId isEmpty new).lb? new.uuid = some row') :
    row'.options = new.options := by
  have hput : ∀ x : LoadBalancer, x.uuid = new.uuid → x.options = new.options →
      (nb.putLb x).lb? new.uuid = some row' → row'.options = new.options := by
    intro x hu ho hx
    rw [← hu, Nb.lb?_putLb x (hu ▸ hrow), Option.some.injEq] at hx
    rw [← hx, ho]
  unfold Nb.cleaned at h
  split at h
  · split at h
    · exact hput new rfl rfl h
    · exact hput { new with protocol := none } rfl rfl h
    · obtain ⟨hm, hu⟩ := Nb.lb?_eq_some h
      rw [Nb.loadBalancers_deleteLb, List.mem_filter] at hm
      simp [hu] at hm
  · exact hput new rfl rfl h

/-- The row after a pool was created on it. -/
theorem run_poolCreate_options (hw : nb.WellFormed) {up : Bool} (hup : info.adminStateUp = some up)
    (hlt : row.uuid < nb.nextUuid)
    (hget : ((getOrCreateOvnLb env info.loadbalancerId info.protocol up info.lbAlgorithm).run
      Nb.apply nb).1 = .ok row) :
    ∃ old row', nb.lb? row.uuid = some old ∧
      (handled env (.poolCreate info) nb).lb? row.uuid = some row' ∧
      row'.options = affinityOptions (createdTimeout info) old.options := by
  rcases hrun : (getOrCreateOvnLb env info.loadbalancerId info.protocol up info.lbAlgorithm).run
    Nb.apply nb with ⟨r, nb₁⟩
  rw [hrun] at hget
  subst hget
  obtain ⟨old, hold, ho⟩ := getOrCreateOvnLb_existing hw hlt hrun
  have hw₁ := getOrCreateOvnLb_wellFormed hw hrun
  have hrow := hw₁.lb?_of_mem (Nb.mem_lbsNamed.mp (getOrCreateOvnLb_row hw hrun).1).1
  have hhandled : handled env (.poolCreate info) nb = nb₁.putLb { row with
      externalIds := poolCreateExternalIds info up row.externalIds
      options := affinityOptions (createdTimeout info) row.options } := by
    rw [handled_eq, handle, run_map_some, poolCreate, hup]
    simp only [Prog.run_bind, hrun, Prog.run_attempt, run_poolCreateOn hw₁ hrow info up]
    rfl
  refine ⟨old, { row with
    externalIds := poolCreateExternalIds info up row.externalIds
    options := affinityOptions (createdTimeout info) row.options }, hold, ?_, ?_⟩
  · rw [hhandled]
    exact Nb.lb?_putLb _ hrow
  · rw [← ho]

/-- The row after a pool of it was updated. -/
theorem run_poolUpdate_options (env : Env) (hw : nb.WellFormed)
    (hsel : selectOvnLb info.protocol (nb.lbsNamed info.loadbalancerId) = .ok row) :
    ∃ row', (handled env (.poolUpdate info) nb).lb? row.uuid = some row' ∧
      row'.options = match ((poolUpdateCommit env info row row.externalIds).run Nb.apply nb).1 with
        | .error _ => row.options
        | .ok _ => affinityOptions (updatedTimeout info) row.options := by
  have hrow := hw.lb?_of_mem (Nb.mem_lbsNamed.mp (selectOvnLb_ok hsel).1).1
  by_cases hasks : info.Asks
  · have hhandled : handled env (.poolUpdate info) nb =
        ((poolUpdateCommit env info row row.externalIds).run Nb.apply nb).2 := by
      rw [handled_eq, handle, run_map_some, run_poolUpdate_found env hw hasks hsel,
        run_poolUpdateOn_eq]
      rcases (poolUpdateCommit env info row row.externalIds).run Nb.apply nb with ⟨e | _, s⟩
      · rfl
      · cases info.adminStateUp with
        | none => rfl
        | some up => rfl
    rw [hhandled]
    cases hup : info.adminStateUp with
    | none =>
        rw [run_poolUpdateCommit_none hw hrow hup]
        exact ⟨_, Nb.lb?_putLb { row with
          options := affinityOptions (updatedTimeout info) row.options } hrow, rfl⟩
    | some up =>
        rw [run_poolUpdateCommit_some hw hrow hup]
        dsimp only
        split
        · exact ⟨row, hrow, rfl⟩
        · next vips _ =>
            refine ⟨{ row with
              externalIds := movedPoolKeys (getPoolKey info.id (!up)) (getPoolKey info.id up)
                row.externalIds
              vips, options := affinityOptions (updatedTimeout info) row.options }, ?_, ?_⟩
            · exact Nb.lb?_putLb _ hrow
            · rfl
  · obtain ⟨hup, hnone⟩ : info.adminStateUp = none ∧ info.sessionPersistence = none := by
      simpa [PoolInfo.Asks] using hasks
    have hhandled : handled env (.poolUpdate info) nb = nb := by
      rw [handled_eq, handle, run_map_some, poolUpdate, hup, hnone]
      rfl
    rw [hhandled, run_poolUpdateCommit_none hw hrow hup, updatedTimeout, hnone]
    exact ⟨row, hrow, rfl⟩

/-- The row after a pool of it was deleted. -/
theorem run_poolDelete_options (env : Env) (hw : nb.WellFormed)
    (hsel : selectOvnLb info.protocol (nb.lbsNamed info.loadbalancerId) = .ok row) :
    match ((poolDeleteOn env info row row.externalIds).run Nb.apply nb).1 with
    | .error _ => handled env (.poolDelete info) nb = nb
    | .ok _ => ∀ row', (handled env (.poolDelete info) nb).lb? row.uuid = some row' →
        row'.options = row.options.erase affinityTimeout := by
  have hrow := hw.lb?_of_mem (Nb.mem_lbsNamed.mp (selectOvnLb_ok hsel).1).1
  have hhandled : handled env (.poolDelete info) nb =
      ((poolDeleteOn env info row row.externalIds).run Nb.apply nb).2 := by
    rw [handled_eq, handle, run_map_some, poolDelete]
    simp only [Prog.run_bind, Prog.run_attempt, run_findOvnLb, hsel, run_readLb, live_of_lb? hrow]
    rcases (poolDeleteOn env info row row.externalIds).run Nb.apply nb with ⟨e | _, s⟩
    · rfl
    · rfl
  rw [hhandled, run_poolDeleteOn_options env hw hrow info]
  generalize (if row.externalIds.contains (getPoolKey info.id true) then
    frameVipIps env row.externalIds (row.externalIds.erase (getPoolKey info.id true))
    else .ok row.vips) = framed
  cases framed with
  | error e => rfl
  | ok vips =>
      dsimp only
      generalize hnew : ({ row with
        externalIds := poolDeletedKeys info.id row.externalIds, vips
        options := row.options.erase affinityTimeout } : LoadBalancer) = new
      have hnewu : new.uuid = row.uuid := hnew ▸ rfl
      intro row' hrow'
      rw [Nb.options_cleaned (hnewu ▸ hrow) (hnewu ▸ hrow'), ← hnew]

end Options

section Steps
variable {env : Env} {s s' : PoolState} {r : PoolRequest} {info : PoolInfo} {u : Nat}

theorem affinityExact_create (hw : s.nb.WellFormed) (hlt : u < s.nb.nextUuid)
    (h : AffinityExact u s) (ha : (PoolRequest.create info).Acts env u s)
    (hspares : (PoolRequest.create info).SparesAffinity u s) :
    AffinityExact u (s.next env (.create info)) := by
  obtain ⟨hnew, up, row, hup, hget, rfl⟩ := ha
  obtain ⟨old, row', hold, hrow', hoptions⟩ := run_poolCreate_options hw hup hlt hget
  have hcommit : (PoolRequest.create info).commit env s.nb = .ok () := by
    simp only [PoolRequest.commit, hup, hget]
    rfl
  have hin := h old hold
  intro x hx
  have hxr : x = row' := Option.some.inj (hx.symm.trans hrow')
  rw [hxr, hoptions]
  simp only [PoolState.next, hcommit, PoolRequest.track]
  rcases hsp : info.sessionPersistence with _ | _ | p
  · rw [createdTimeout, hsp]
    exact Shared.inStep_idle hnew hin
  · rw [createdTimeout, hsp]
    exact Shared.inStep_idle hnew hin
  · cases ht : p.hasTimeout with
    | true =>
        simp only [createdTimeout, hsp, ht, if_true]
        rw [get?_affinityOptions]
        exact Shared.inStep_write
    | false =>
        simp only [createdTimeout, hsp, ht, Bool.false_eq_true, if_false]
        refine (Shared.inStep_unwritten_iff hnew hin).mpr ?_
        rcases hspares p hsp with htrue | ⟨j, q, hj⟩
        · rw [ht] at htrue
          cases htrue
        · refine Option.ne_none_iff_exists'.mp fun hnone => ?_
          exact hin.empty_iff.mp hnone j q hj

theorem affinityExact_update (hw : s.nb.WellFormed) (h : AffinityExact u s)
    (ha : (PoolRequest.update info).Acts env u s)
    (hspares : (PoolRequest.update info).commit env s.nb = .ok () →
      (PoolRequest.update info).SparesAffinity u s) :
    AffinityExact u (s.next env (.update info)) := by
  obtain ⟨-, row, hsel, rfl⟩ := ha
  have hrow := hw.lb?_of_mem (Nb.mem_lbsNamed.mp (selectOvnLb_ok hsel).1).1
  obtain ⟨row', hrow', hoptions⟩ := run_poolUpdate_options env hw hsel
  have hcommit : (PoolRequest.update info).commit env s.nb =
      ((poolUpdateCommit env info row row.externalIds).run Nb.apply s.nb).1 := by
    simp only [PoolRequest.commit, hsel]
  have hin := h row hrow
  intro x hx
  have hxr : x = row' := Option.some.inj (hx.symm.trans hrow')
  rw [hxr, hoptions, ← hcommit]
  cases hc : (PoolRequest.update info).commit env s.nb with
  | error e =>
      simp only [PoolState.next, hc]
      exact hin
  | ok _ =>
      simp only [PoolState.next, hc, PoolRequest.track]
      rcases hsp : info.sessionPersistence with _ | _ | p
      · simp only [updatedTimeout, hsp]
        exact hin
      · simp only [updatedTimeout, hsp]
        refine (Shared.inStep_release_iff hin).mpr fun timeout ht => ?_
        exact hspares hc hsp row timeout hrow ht
      · simp only [updatedTimeout, hsp]
        rw [get?_affinityOptions]
        exact Shared.inStep_write

theorem affinityExact_delete (hw : s.nb.WellFormed) (h : AffinityExact u s)
    (ha : (PoolRequest.delete info).Acts env u s)
    (hspares : (PoolRequest.delete info).commit env s.nb = .ok () →
      (PoolRequest.delete info).SparesAffinity u s) :
    AffinityExact u (s.next env (.delete info)) := by
  obtain ⟨-, row, hsel, rfl⟩ := ha
  have hrow := hw.lb?_of_mem (Nb.mem_lbsNamed.mp (selectOvnLb_ok hsel).1).1
  have hdelete := run_poolDelete_options env hw hsel
  have hcommit : (PoolRequest.delete info).commit env s.nb =
      ((poolDeleteOn env info row row.externalIds).run Nb.apply s.nb).1 := by
    simp only [PoolRequest.commit, hsel]
  rw [← hcommit] at hdelete
  intro x hx
  cases hc : (PoolRequest.delete info).commit env s.nb with
  | error e =>
      rw [hc] at hdelete
      have hx : (handled env (.poolDelete info) s.nb).lb? row.uuid = some x := hx
      rw [hdelete, hrow, Option.some.injEq] at hx
      simp only [PoolState.next, hc, ← hx]
      exact h row hrow
  | ok _ =>
      rw [hc] at hdelete
      rw [hdelete x hx, Dict.get?_erase_self]
      simp only [PoolState.next, hc, PoolRequest.track]
      exact Shared.inStep_clear_iff.mpr (hspares hc)

/-- A request that spares the affinity keeps it right. -/
theorem affinityExact_next (hw : s.nb.WellFormed) (hlt : u < s.nb.nextUuid)
    (h : AffinityExact u s) (ha : r.Acts env u s)
    (hspares : r.commit env s.nb = .ok () → r.SparesAffinity u s) :
    AffinityExact u (s.next env r) := by
  cases r with
  | create info =>
      refine affinityExact_create hw hlt h ha (hspares ?_)
      obtain ⟨-, up, row, hup, hget, -⟩ := ha
      simp only [PoolRequest.commit, hup, hget]
      rfl
  | update info => exact affinityExact_update hw h ha hspares
  | delete info => exact affinityExact_delete hw h ha hspares

end Steps

section Runs
variable {s s' : PoolState} {u : Nat}

/-- A request on the row that spares its affinity, unless its transaction fails. -/
def PoolStep (u : Nat) (s s' : PoolState) : Prop :=
  ∃ env r, PoolRequest.Acts env u s r ∧ (r.commit env s.nb = .ok () → r.SparesAffinity u s) ∧
    s' = s.next env r

/-- The deletion of a pool without persistence leaves the timeout as it is. -/
def DeletionsSpare (u : Nat) (s : PoolState) : Prop :=
  ∀ env info, (PoolRequest.delete info).Acts env u s →
    ((PoolRequest.delete info).commit env s.nb = .ok () →
      (PoolRequest.delete info).SparesAffinity u s) →
    s.pools.get? info.id = some none → ∀ row row', s.nb.lb? u = some row →
      (s.next env (.delete info)).nb.lb? u = some row' →
      row'.options.get? affinityTimeout = row.options.get? affinityTimeout

theorem AffinityExact.deletionsSpare (hw : s.nb.WellFormed) (h : AffinityExact u s) :
    DeletionsSpare u s := by
  intro env info ha hspares hidle row row' hrow hrow'
  obtain ⟨-, found, hsel, rfl⟩ := ha
  have hfound := hw.lb?_of_mem (Nb.mem_lbsNamed.mp (selectOvnLb_ok hsel).1).1
  have he : found = row := Option.some.inj (hfound.symm.trans hrow)
  subst he
  have hdelete := run_poolDelete_options env hw hsel
  have hcommit : (PoolRequest.delete info).commit env s.nb =
      ((poolDeleteOn env info found found.externalIds).run Nb.apply s.nb).1 := by
    simp only [PoolRequest.commit, hsel]
  rw [← hcommit] at hdelete
  cases hc : (PoolRequest.delete info).commit env s.nb with
  | error e =>
      rw [hc] at hdelete
      have hrow' : (handled env (.poolDelete info) s.nb).lb? found.uuid = some row' := hrow'
      rw [hdelete, hrow, Option.some.injEq] at hrow'
      rw [hrow']
  | ok _ =>
      rw [hc] at hdelete
      rw [hdelete row' hrow', Dict.get?_erase_self]
      symm
      refine (h found hrow).empty_iff.mpr fun j q hj => ?_
      refine hspares hc q ⟨j, fun he => ?_, hj⟩
      rw [he, hidle] at hj
      cases hj

/-- Along requests that spare the affinity it stays that of the pools that have one. -/
theorem affinityExact_run (hw : s.nb.WellFormed) (hrow : (s.nb.lb? u).isSome)
    (h : AffinityExact u s) (hrun : Relation.ReflTransGen (PoolStep u) s s') :
    AffinityExact u s' ∧ DeletionsSpare u s' := by
  obtain ⟨row, hrow⟩ := Option.isSome_iff_exists.mp hrow
  obtain ⟨hm, hu⟩ := Nb.lb?_eq_some hrow
  have hlt : u < s.nb.nextUuid := hu ▸ hw.lt_next row hm
  suffices hs : s'.nb.WellFormed ∧ u < s'.nb.nextUuid ∧ AffinityExact u s' from
    ⟨hs.2.2, hs.2.2.deletionsSpare hs.1⟩
  induction hrun with
  | refl => exact ⟨hw, hlt, h⟩
  | tail _ hstep ih =>
      obtain ⟨env, r, ha, hspares, rfl⟩ := hstep
      obtain ⟨hwb, hltb, hb⟩ := ih
      obtain ⟨hw', hnext⟩ := hwb.run (handle env r.request)
      exact ⟨hw', Nat.lt_of_lt_of_le hltb hnext, affinityExact_next hwb hltb hb ha hspares⟩

end Runs

section Example

/-- A row with one pool, which has no session persistence. -/
def exampleAffinity : PoolState := ⟨examplePooled ∅, Dict.single (exampleId 'c') none⟩

/-- Another pool of the row. -/
def exampleSecondPool (persistence : Option Persistence) : PoolInfo :=
  { id := exampleId 'd', loadbalancerId := exampleId 'a', protocol := .tcp
    adminStateUp := some true, sessionPersistence := some persistence }

theorem affinityExact_exampleAffinity : AffinityExact 2 exampleAffinity := by
  intro row hrow
  have he : row = examplePooledRow ∅ := Option.some.inj (hrow.symm.trans rfl)
  rw [he]
  refine Shared.inStep_none_iff.mpr fun j q hj => ?_
  rw [exampleAffinity, Dict.get?_eq_some_iff] at hj
  cases List.mem_singleton.mp hj

theorem acts_create_exampleAffinity :
    (PoolRequest.create (exampleSecondPool (some {}))).Acts exampleEnv 2 exampleAffinity := by
  have hrow : ((getOrCreateOvnLb exampleEnv (exampleId 'a') .tcp true none).run Nb.apply
      (examplePooled ∅)).1 = .ok (examplePooledRow ∅) := by decide +kernel
  exact ⟨by decide +kernel, true, _, rfl, hrow, rfl⟩

/-- The pool is created with a persistence, is given another timeout and is deleted. -/
theorem affinityExact_run_example :
    let s₁ := exampleAffinity.next exampleEnv (.create (exampleSecondPool (some {})))
    let s₂ := s₁.next exampleEnv (.update (exampleSecondPool (some ⟨some (some 60)⟩)))
    let s₃ := s₂.next exampleEnv (.delete (exampleSecondPool none))
    (s₂.nb.lb? 2).map (·.options.get? affinityTimeout) = some (some "60".toList) ∧
      (s₃.nb.lb? 2).map (·.options.get? affinityTimeout) = some none ∧
      AffinityExact 2 s₃ ∧ DeletionsSpare 2 s₃ := by
  intro s₁ s₂ s₃
  have hselect : ∀ s ∈ [s₁, s₂], ∃ row,
      selectOvnLb .tcp (s.nb.lbsNamed (exampleId 'a')) = .ok row ∧ row.uuid = 2 := by
    have hall : ∀ s ∈ [s₁, s₂],
        (selectOvnLb .tcp (s.nb.lbsNamed (exampleId 'a'))).map LoadBalancer.uuid = .ok 2 := by
      decide +kernel
    exact fun s hs => Except.map_eq_ok.mp (hall s hs)
  have hcreate : PoolStep 2 exampleAffinity s₁ := by
    refine ⟨exampleEnv, _, acts_create_exampleAffinity, fun _ p hp => ?_, rfl⟩
    cases hp
    exact .inl rfl
  have hupdate : PoolStep 2 s₁ s₂ :=
    ⟨exampleEnv, .update (exampleSecondPool (some ⟨some (some 60)⟩)),
      ⟨by decide +kernel, hselect s₁ List.mem_cons_self⟩, fun _ hnone => (by cases hnone), rfl⟩
  have hdelete : PoolStep 2 s₂ s₃ := by
    refine ⟨exampleEnv, .delete (exampleSecondPool none), ⟨by decide +kernel, hselect s₂ ?_⟩, ?_,
      rfl⟩
    · exact List.mem_cons_of_mem _ List.mem_cons_self
    · -- the other pool has no persistence
      rintro - q ⟨j, hj, hq⟩
      have hpools : s₂.pools.items = [(exampleId 'c', none),
          (exampleId 'd', some ⟨some (some 60)⟩)] := by decide +kernel
      rw [Dict.get?_eq_some_iff, hpools] at hq
      simp only [List.mem_cons, Prod.mk.injEq, reduceCtorEq, and_false, List.not_mem_nil, or_false,
        false_or] at hq
      exact hj hq.1
  exact ⟨by decide +kernel, by decide +kernel, affinityExact_run (wellFormed_examplePooled ∅) rfl
    affinityExact_exampleAffinity (((Relation.ReflTransGen.single hcreate).tail hupdate).tail
      hdelete)⟩

/-- Once another pool has a persistence, the deletion of the pool that has none takes
its timeout away. -/
theorem not_affinityExact_example :
    let s := exampleAffinity.next exampleEnv (.create (exampleSecondPool (some {})))
    let r : PoolRequest := .delete (examplePoolUpdate none none)
    AffinityExact 2 exampleAffinity ∧
      (PoolRequest.create (exampleSecondPool (some {}))).Acts exampleEnv 2 exampleAffinity ∧
      r.Acts exampleEnv 2 s ∧ s.pools.get? r.info.id = some none ∧
      ¬AffinityExact 2 (s.next exampleEnv r) := by
  intro s r
  have hsel : ∃ row, selectOvnLb .tcp (s.nb.lbsNamed (exampleId 'a')) = .ok row ∧
      row.uuid = 2 := by
    have h : (selectOvnLb .tcp (s.nb.lbsNamed (exampleId 'a'))).map LoadBalancer.uuid = .ok 2 := by
      decide +kernel
    exact Except.map_eq_ok.mp h
  refine ⟨affinityExact_exampleAffinity, acts_create_exampleAffinity, ⟨by decide +kernel, hsel⟩,
    by decide +kernel, fun h => ?_⟩
  have hgone : ((s.next exampleEnv r).nb.lb? 2).map (·.options.get? affinityTimeout) =
      some none := by decide +kernel
  obtain ⟨row, hrow, hnone⟩ := Option.map_eq_some_iff.mp hgone
  refine (h row hrow).empty_iff.mp hnone (exampleId 'd') {} ?_
  decide +kernel

end Example

end OvnOctavia

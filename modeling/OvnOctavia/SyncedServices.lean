import OvnOctavia.FullSync
import OvnOctavia.SyncedListeners

/-!
What the listeners of a row serve after a full sync: the members of the pool of the tree, when
a listener names one pool that is enabled, and nothing when it names several.
-/

namespace OvnOctavia

section Targets
variable {env : Env} {e : Dict Str Str} {chain : List (Str × Bool)}

theorem colon_mem_poolKey (id : Str) : ':' ∈ getPoolKey id false := by
  simp [getPoolKey]

theorem poolChain_singleton (p : Str × Bool) : poolChain [p] = getPoolKey p.1 p.2 :=
  List.append_nil _

/-- Several pool keys are no key: there is one `p` in a pool key. -/
theorem Legible.get?_poolChain (he : Legible env e) {p q : Str × Bool} (rest : List (Str × Bool)) :
    e.get? (poolChain (p :: q :: rest)) = none := by
  rw [Option.eq_none_iff_forall_ne_some]
  intro v hv
  have hstart : Str.startsWith lbExtIdsPoolPrefix (poolChain (p :: q :: rest)) = true := by
    rw [poolChain_cons, getPoolKey, List.append_assoc, List.append_assoc]
    exact Str.startsWith_append _ _
  generalize hk : poolChain (p :: q :: rest) = k at hv hstart
  cases he k v hv with
  | base hb =>
      rw [startsWith_pool_base hb] at hstart
      cases hstart
  | listener => cases hstart
  | @pool id _ up hid =>
      rw [poolChain_cons, poolChain_cons, getPoolKey_eq_cons, getPoolKey_eq_cons,
        getPoolKey_eq_cons, List.cons_append, List.cons.injEq] at hk
      refine notMem_poolKeyTail hid up (hk.2 ▸ ?_)
      simp

/-- The pool that is named alone, if it is enabled. -/
def solePool : List (Str × Bool) → Option Str
  | [(id, true)] => some id
  | _ => none

theorem solePool_eq_some_iff {id : Str} : solePool chain = some id ↔ chain = [(id, true)] := by
  match chain with
  | [] => simp [solePool]
  | [(_, true)] => simp [solePool]
  | [(_, false)] => simp [solePool]
  | _ :: _ :: _ => simp [solePool]

/-- A listener stands for the pool that it names alone. -/
theorem Legible.target_poolChain (he : Legible env e) (hp : ∀ p ∈ chain, IsUuid p.1) :
    target e (poolChain chain) =
      ((solePool chain).bind fun id => e.get? (getPoolKey id true)).getD [] := by
  match chain with
  | [] => rfl
  | [(id, true)] =>
      have hid : IsUuid id := hp (id, true) List.mem_cons_self
      rw [poolChain_singleton, target_poolKey hid]
      rfl
  | [(id, false)] =>
      refine if_pos (.inr ?_)
      rw [poolChain_singleton]
      exact colon_mem_poolKey id
  | p :: q :: rest =>
      have hnone : solePool (p :: q :: rest) = none := by
        rw [Option.eq_none_iff_forall_ne_some]
        intro id hid
        cases solePool_eq_some_iff.mp hid
      rw [target, he.get?_poolChain, hnone]
      split
      · rfl
      · rfl

end Targets

section Services
variable {env : Env} {lb : Octavia.LoadBalancer} {e : Dict Str Str}

/-- Each listener of the tree names the pools of the tree. It serves the members of the pool
it names alone, and nothing when there is no such pool. -/
structure ServesTree (env : Env) (lb : Octavia.LoadBalancer) (e : Dict Str Str) : Prop where
  value : ∀ l ∈ lb.listeners.getD [], e.get? l.key = some (l.value (lb.chain l))
  pool : ∀ l ∈ lb.listeners.getD [], ∀ pool ∈ lb.pools.getD [],
    pool.adminStateUp.getD true = true → lb.chain l = [(pool.poolId, true)] →
    ∃ ds, (pool.members.getD []).mapM (memberData env lb) = .ok ds ∧
      serviceOf e (l.value (lb.chain l)) = (Str.ofNat l.protocolPort, poolValue ds.eraseDups)
  none : ∀ l ∈ lb.listeners.getD [], (∀ id, lb.chain l ≠ [(id, true)]) →
    (serviceOf e (l.value (lb.chain l))).2 = []

/-- A listener of one enabled pool stands for its port and the value of the pool. -/
theorem serviceOf_poolKey {id : Str} (hid : IsUuid id) (e : Dict Str Str) (port : Nat) :
    serviceOf e (makeListenerKeyValue port (getPoolKey id true)) =
      (Str.ofNat port, (e.get? (getPoolKey id true)).getD []) := by
  have hport : Str.ofNat port ≠ [] := Str.ofNat_ne_nil port
  have hne : getPoolKey id true ≠ [] := by simp [getPoolKey_eq_cons]
  rw [serviceOf, extractListenerKeyValue_make (colon_notMem_poolKey hid)]
  exact if_neg (not_or.mpr ⟨hport, hne⟩)

/-- Legible rows whose pools and listeners are those of the tree serve it. -/
theorem servesTree_of_relinked (he : Legible env e) (ht : lb.WellFormed env)
    (hbuilt : Rebuilt env lb e) (hlinked : Relinked lb e) : ServesTree env lb e where
  value := hlinked
  pool := by
    intro l hl pool hm hup hchain
    obtain ⟨ds, hds, hv⟩ := hbuilt pool hm
    have hkey : pool.key = getPoolKey pool.poolId true := by rw [Octavia.Pool.key, hup]
    refine ⟨ds, hds, ?_⟩
    rw [hchain, Octavia.Listener.value, poolChain_singleton, serviceOf_poolKey (ht.pool pool hm),
      ← hkey, hv]
    rfl
  none := by
    intro l hl hno
    have hnone : solePool (lb.chain l) = none := by
      rw [Option.eq_none_iff_forall_ne_some]
      exact fun id hid => hno id (solePool_eq_some_iff.mp hid)
    rw [Octavia.Listener.value, (serviceOf_make e _ _).1, he.target_poolChain (isUuid_chain ht hl),
      hnone]
    rfl

end Services

section Formatting
variable {lb : Octavia.LoadBalancer} {e : Dict Str Str}

theorem chain_formatProvider (lb : Octavia.LoadBalancer) (l : Octavia.Listener) :
    (formatProvider lb).chain l = lb.chain l := by
  rw [Octavia.LoadBalancer.chain, pools_formatProvider, List.foldl_map]
  rfl

theorem named_formatProvider (h : lb.Named) : (formatProvider lb).Named where
  distinct := by
    rw [listeners_formatProvider]
    exact h.distinct
  listener := by
    intro pool hm
    rw [pools_formatProvider, List.mem_map] at hm
    obtain ⟨p, hp, rfl⟩ := hm
    exact h.listener p hp

theorem relinked_formatProvider (h : Relinked (formatProvider lb) e) : Relinked lb e := by
  intro l hl
  rw [← chain_formatProvider lb l]
  exact h l (by rwa [listeners_formatProvider])

end Formatting

section Rounds
variable {env : Env} {source : SyncSource} {nb nb' : Nb} {row : LoadBalancer} {lbId : Str}
  {statuses : List Status}

/-- A full sync that ends leaves every row of a listed load balancer with listeners that serve
the pools of the tree, whatever they named before. -/
theorem doSync_serves (hw : nb.WellFormed) (hanswers : source.Answers)
    (hips : source.Legible env) (hlisted : lbId ∈ source.lbs)
    (ht : ∀ lb, source.getLoadbalancer lbId = .ok (some lb) →
      lb.tree.WellFormed env ∧ lb.tree.Named)
    (hm : row ∈ nb.lbsNamed lbId) (hl : Legible env row.externalIds)
    (hrun : (doSync env source).run Nb.apply nb = (.ok statuses, nb')) :
    ∃ lb row', source.getLoadbalancer lbId = .ok (some lb) ∧ nb'.lb? row.uuid = some row' ∧
      ServesTree env lb.tree row'.externalIds := by
  obtain ⟨hmem, rfl⟩ := Nb.mem_lbsNamed.mp hm
  have hround : ∀ lb ovnLb t status t', source.getLoadbalancer row.name = .ok (some lb) →
      t.RowWith ovnLb.uuid (Legible env) →
      (ensureRow env (formatProvider lb.tree) ovnLb).run Nb.apply t = (.ok status, t') →
      t'.RowWith ovnLb.uuid fun e => Rebuilt env lb.tree e ∧ Relinked lb.tree e := by
    intro lb ovnLb t status t' hget hr hend
    have htree := wellFormed_formatProvider (ht lb hget).1
    have hbuilt := rowWith_ensureRow_rebuilt htree hr hend
    have hlinked := rowWith_ensureRow_relinked htree (named_formatProvider (ht lb hget).2) hr hend
    exact (hbuilt.and hlinked).imp fun e he =>
      ⟨rebuilt_formatProvider he.1, relinked_formatProvider he.2⟩
  have hobjects : ∀ (tree : Octavia.LoadBalancer) (e e' : Dict Str Str),
      (∀ k, k ∉ baseKeys → e'.get? k = e.get? k) → Rebuilt env tree e ∧ Relinked tree e →
      Rebuilt env tree e' ∧ Relinked tree e' :=
    fun tree e e' h he => ⟨he.1.of_objects h, he.2.of_objects h⟩
  obtain ⟨lb, hget, -, hlegible, hend⟩ := rowWith_doSync
    (J := fun tree e => Rebuilt env tree e ∧ Relinked tree e) hw hanswers hips hlisted
    (fun lb hget => (ht lb hget).1) (hw.lb?_of_mem hmem) hl
    (fun tree => ignoresStatuses_of_objects (hobjects tree))
    (fun tree _ _ => keepsFip_of_objects (hobjects tree)) hround hrun
  obtain ⟨row', hrow', he, hbuilt, hlinked⟩ := hlegible.and hend
  exact ⟨lb, row', hget, hrow', servesTree_of_relinked he (ht lb hget).1 hbuilt hlinked⟩

end Rounds

section Example

theorem named_exampleMembersTree : exampleMembersTree.Named where
  distinct := by
    intro l hl m hm _
    rw [List.mem_singleton.mp hl, List.mem_singleton.mp hm]
  listener := by
    intro pool hm id hid _
    rw [List.mem_singleton.mp hm] at hid
    cases hid
    exact isUuid_exampleId (by decide)

theorem doSync_serves_example : ∃ lb row',
    exampleSource.getLoadbalancer (exampleId 'a') = .ok (some lb) ∧
      ((doSync exampleEnv exampleSource).run Nb.apply exampleStaleNb).2.lb? 2 = some row' ∧
      ServesTree exampleEnv lb.tree row'.externalIds := by
  have hok : ((doSync exampleEnv exampleSource).run Nb.apply exampleStaleNb).1.toOption.isSome =
      true := by decide +kernel
  cases hrun : ((doSync exampleEnv exampleSource).run Nb.apply exampleStaleNb).1 with
  | error e =>
      rw [hrun] at hok
      cases hok
  | ok statuses =>
      have hm : exampleStaleRow ∈ exampleStaleNb.lbsNamed (exampleId 'a') := by decide +kernel
      have hips : exampleSource.Legible exampleEnv := by
        rintro _ _ ⟨⟩ fip hfip
        rw [List.mem_singleton.mp hfip]
        decide
      refine doSync_serves wellFormed_exampleStaleNb answers_exampleSource hips (by decide) ?_ hm
        legible_exampleStaleRow (Prod.ext hrun rfl)
      rintro _ ⟨⟩
      exact ⟨wellFormed_exampleMembersTree, named_exampleMembersTree⟩

end Example

end OvnOctavia

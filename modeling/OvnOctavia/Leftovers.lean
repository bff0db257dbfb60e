import OvnOctavia.KeptRuns

/-!
What the deletion of a listener or of a pool leaves on the rows of its load balancer.
A disabled listener keeps its key, and a disabled pool still counts when the row is
looked through for objects, so a row that held nothing else keeps its protocol.
-/

namespace OvnOctavia

/-- A listener or a pool, as the request to delete it names it. -/
inductive Deletion where
  | listener (info : ListenerInfo)
  | pool (info : PoolInfo)

namespace Deletion

def lbId : Deletion → Str
  | listener info => info.loadbalancerId
  | pool info => info.loadbalancerId

def protocol : Deletion → Protocol
  | listener info => info.protocol
  | pool info => info.protocol

def key : Deletion → Bool → Str
  | listener info => getListenerKey info.id
  | pool info => getPoolKey info.id

def request : Deletion → Request
  | listener info => .listenerDelete info
  | pool info => .poolDelete info

/-- The status reports the object as deleted. -/
def Reports : Deletion → Status → Prop
  | listener info, s => ∃ entry ∈ s.listeners.getD [],
      entry.id = some info.id ∧ entry.provisioningStatus = some DELETED
  | pool info, s => ∃ entry ∈ s.pools.getD [],
      entry.id = some info.id ∧ entry.provisioningStatus = some DELETED

/-- No key of the object is left, no listener names a pool that is gone, and the row is the
load balancer's only one and without protocol once it holds nothing. -/
structure Gone (o : Deletion) (row : LoadBalancer) (nb : Nb) : Prop where
  keys : ∀ row' ∈ nb.lbsNamed o.lbId, ∀ up, o.key up ∉ row'.externalIds.keys
  values : ∀ info, o = .pool info → ∀ row' ∈ nb.lbsNamed o.lbId, ∀ k v,
    Str.startsWith lbExtIdsListenerPrefix k = true → row'.externalIds.get? k = some v →
      Str.contains (getPoolKey info.id true) (v.dropWhile (· ≠ ':')) = false
  empty : ∀ row' ∈ nb.lbsNamed o.lbId, row'.uuid = row.uuid →
    isLbEmpty row'.externalIds = true → row'.protocol = none ∧ nb.lbsNamed o.lbId = [row']

/-- Whenever the object is reported as deleted, nothing of it is left. -/
def LeavesNothing (env : Env) (o : Deletion) (row : LoadBalancer) (nb : Nb) : Prop :=
  ∀ s, ((handle env o.request).run Nb.apply nb).1 = .ok (some s) → o.Reports s →
    o.Gone row (handled env o.request nb)

/-- The object is on the row of its protocol, under one key, and only listeners of that row
name it. -/
structure Held (o : Deletion) (up : Bool) (row : LoadBalancer) (nb : Nb) : Prop where
  selected : selectOvnLb o.protocol (nb.lbsNamed o.lbId) = .ok row
  protocol : row.protocol = some o.protocol
  key : o.key up ∈ row.externalIds.keys
  sole : ∀ row' ∈ nb.lbsNamed o.lbId, ∀ up', o.key up' ∈ row'.externalIds.keys →
    row' = row ∧ up' = up
  named : ∀ info, o = .pool info → ∀ row' ∈ nb.lbsNamed o.lbId, row' ≠ row → ∀ k v,
    Str.startsWith lbExtIdsListenerPrefix k = true → row'.externalIds.get? k = some v →
      Str.contains (getPoolKey info.id true) v = false

end Deletion

section Keys
variable {e e' : Dict Str Str}

theorem isLbEmpty_congr (h : e'.keys = e.keys) : isLbEmpty e' = isLbEmpty e := by
  rw [isLbEmpty, isLbEmpty, h]

theorem contains_dropWhile_of_contains {sub v : Str} {p : Char → Bool}
    (h : Str.contains sub v = false) : Str.contains sub (v.dropWhile p) = false := by
  rw [Str.contains_eq_false_iff] at h ⊢
  exact fun hi => h (hi.trans (List.dropWhile_suffix p).isInfix)

/-- What detaching a pool makes of one listener's value. -/
def detachedValue (poolKey v : Str) : Str :=
  if Str.contains poolKey v then (v.splitOn ':').headD [] ++ [':'] else v

theorem get?_foldl_detachListener {poolKey k : Str} {l : List (Str × Str)}
    (hnd : (l.map Prod.fst).Nodup) (acc : Dict Str Str) :
    (∀ v, (k, v) ∈ l → Str.startsWith lbExtIdsListenerPrefix k = true →
        acc.get? k = some v →
          (l.foldl (detachListener poolKey) acc).get? k = some (detachedValue poolKey v)) ∧
      (k ∉ l.map Prod.fst → (l.foldl (detachListener poolKey) acc).get? k = acc.get? k) := by
  induction l generalizing acc with
  | nil => exact ⟨nofun, fun _ => rfl⟩
  | cons b l ih =>
      rw [List.map_cons, List.nodup_cons] at hnd
      obtain ⟨hnot, hnd'⟩ := hnd
      have hother : k ≠ b.1 → (detachListener poolKey acc b).get? k = acc.get? k := by
        intro hne
        rw [detachListener]
        split
        · exact Dict.get?_set_of_ne acc _ hne
        · rfl
      refine ⟨fun v hm hs hv => ?_, fun hk => ?_⟩
      · rw [List.foldl_cons]
        rcases List.mem_cons.mp hm with he | hm
        · subst he
          rw [(ih hnd' _).2 hnot, detachListener, detachedValue]
          split
          · next hc =>
              rw [Bool.and_eq_true] at hc
              rw [if_pos hc.2, Dict.get?_set_self]
          · next hc =>
              rw [if_neg fun h => hc (by rw [Bool.and_eq_true]; exact ⟨hs, h⟩), hv]
        · have hne : k ≠ b.1 := fun he => hnot (he ▸ List.mem_map_of_mem hm)
          exact (ih hnd' _).1 v hm hs ((hother hne).trans hv)
      · rw [List.map_cons, List.mem_cons, not_or] at hk
        rw [List.foldl_cons, (ih hnd' _).2 hk.2, hother hk.1]

theorem colon_notMem_headD_splitOn (v : Str) : ':' ∉ (v.splitOn ':').headD [] := by
  obtain ⟨head, rest, hs⟩ := List.exists_cons_of_ne_nil (List.splitOn_ne_nil ':' v)
  rw [hs, List.headD_cons]
  exact Str.notMem_of_mem_splitOn (hs ▸ List.mem_cons_self ..)

/-- After its port no listener's value names a pool that was taken out of it. -/
theorem contains_detachedValue {id : Str} (v : Str) :
    Str.contains (getPoolKey id true) ((detachedValue (getPoolKey id true) v).dropWhile
      (· ≠ ':')) = false := by
  rw [detachedValue]
  split
  · have hdrop : ∀ s : Str, ':' ∉ s → (s ++ [':']).dropWhile (· ≠ ':') = [':'] := by
      intro s hs
      induction s with
      | nil => rfl
      | cons c s ih =>
          rw [List.mem_cons, not_or] at hs
          rw [List.cons_append, List.dropWhile_cons_of_pos (by simpa using Ne.symm hs.1), ih hs.2]
    rw [hdrop _ (colon_notMem_headD_splitOn v)]
    exact Str.contains_eq_false_of_notMem (c := 'p')
      (by simp [getPoolKey, lbExtIdsPoolPrefix]) (by decide)
  · next hc => exact contains_dropWhile_of_contains (Bool.eq_false_iff.mpr hc)

theorem keys_poolDeletedKeys (id : Str) (e : Dict Str Str) :
    (poolDeletedKeys id e).keys =
      ((e.erase (getPoolKey id true)).erase (getPoolKey id false)).keys := by
  rw [poolDeletedKeys, Dict.keys_erase, keys_detachPool, ← Dict.keys_erase]

theorem poolKey_notMem_poolDeletedKeys (id : Str) (e : Dict Str Str) (up : Bool) :
    getPoolKey id up ∉ (poolDeletedKeys id e).keys := by
  rw [keys_poolDeletedKeys, Dict.mem_keys_erase, Dict.mem_keys_erase]
  cases up with
  | true => exact fun h => h.1.2 rfl
  | false => exact fun h => h.2 rfl

theorem value_poolDeletedKeys {id k v : Str} (hs : Str.startsWith lbExtIdsListenerPrefix k = true)
    (hv : (poolDeletedKeys id e).get? k = some v) :
    Str.contains (getPoolKey id true) (v.dropWhile (· ≠ ':')) = false := by
  have hne : ∀ up, k ≠ getPoolKey id up := by
    rintro up rfl
    cases hs.symm.trans (startsWith_listener_poolKey id up)
  rw [poolDeletedKeys, Dict.get?_erase_of_ne _ (hne false), detachPool] at hv
  by_cases hk : k ∈ e.keys
  · obtain ⟨w, hw⟩ := get?_of_mem_keys hk
    have hw' : (e.erase (getPoolKey id true)).get? k = some w := by
      rw [Dict.get?_erase_of_ne _ (hne true), hw]
    rw [(get?_foldl_detachListener e.nodup _).1 w ((Dict.get?_eq_some_iff _ _ _).mp hw) hs
      hw'] at hv
    rw [← Option.some.inj hv]
    exact contains_detachedValue w
  · rw [(get?_foldl_detachListener e.nodup _).2 hk, Dict.get?_erase_of_ne _ (hne true),
      (Dict.get?_eq_none_iff _ _).mpr hk] at hv
    cases hv

end Keys

section Rows
variable {nb : Nb} {row new row' : LoadBalancer} {lbId : Str} {isEmpty : Bool}

/-- The rows after a cleaning, and what became of the row it was about. -/
theorem Nb.lbsNamed_cleaned (hw : nb.WellFormed) (hrow : row ∈ nb.lbsNamed lbId)
    (hu : new.uuid = row.uuid) (hn : new.name = row.name)
    (hm : row' ∈ (nb.cleaned lbId isEmpty new).lbsNamed lbId) :
    row' ∈ nb.lbsNamed lbId ∧ row'.uuid ≠ row.uuid ∨ isEmpty = false ∧ row' = new ∨
      row' = { new with protocol := none } ∧
        (nb.cleaned lbId isEmpty new).lbsNamed lbId = [row'] := by
  have hget : nb.lb? row.uuid = some row := hw.lb?_of_mem (Nb.mem_lbsNamed.mp hrow).1
  unfold Nb.cleaned at hm ⊢
  cases isEmpty with
  | false =>
      rcases Nb.named_putLb hget hm hu with h | h
      · exact .inr (.inl ⟨rfl, h⟩)
      · exact .inl h
  | true =>
      simp only [if_true] at hm ⊢
      rcases hrows : nb.lbsNamed lbId with _ | ⟨a, _ | ⟨b, l⟩⟩
      · rw [hrows] at hrow
        cases hrow
      · rw [hrows] at hm hrow
        obtain rfl := List.mem_singleton.mp hrow
        have hput := Nb.lbsNamed_putLb hw { new with protocol := none }
          (hu ▸ hget : nb.lb? new.uuid = some row) hn lbId
        rw [hrows, List.map_singleton, if_pos hu.symm] at hput
        dsimp only at hm ⊢
        rw [hput] at hm ⊢
        have he := List.mem_singleton.mp hm
        exact .inr (.inr ⟨he, by rw [he]⟩)
      · rw [hrows] at hm
        have := Nb.named_deleteLb hm
        rw [hu, hrows] at this
        exact .inl this

theorem Nb.cleaned_of_deletes (h : nb.cleaningDeletes lbId isEmpty = true) :
    nb.cleaned lbId isEmpty new = nb.deleteLb new.uuid := by
  rw [Nb.cleaningDeletes, Bool.and_eq_true, decide_eq_true_iff] at h
  obtain ⟨rfl, hlen⟩ := h
  unfold Nb.cleaned
  rcases hrows : nb.lbsNamed lbId with _ | ⟨a, _ | ⟨b, l⟩⟩
  · simp [hrows] at hlen
  · simp [hrows] at hlen
  · rfl

end Rows

namespace Deletion
variable {env : Env} {nb : Nb} {row new : LoadBalancer} {o : Deletion} {up isEmpty : Bool}

theorem reports_listener {info : ListenerInfo} {st : Str} {op : Option Str} :
    (listener info).Reports (listenerStatusOf info st op) ↔ st = DELETED := by
  simp [Reports, listenerStatusOf]

theorem reports_pool {info : PoolInfo} {st : Str} {op : Option Str} {lb : Str}
    {listeners : Option (List Str)} :
    (pool info).Reports (poolStatusOf info st op lb listeners) ↔ st = DELETED := by
  simp [Reports, poolStatusOf]

/-- A cleaned row without the object's keys leaves nothing, if the cleaning saw what is left. -/
theorem Held.gone (h : o.Held up row nb) (hw : nb.WellFormed) (hu : new.uuid = row.uuid)
    (hn : new.name = row.name) (hkeys : ∀ up, o.key up ∉ new.externalIds.keys)
    (hvalues : ∀ info, o = .pool info → ∀ k v, Str.startsWith lbExtIdsListenerPrefix k = true →
      new.externalIds.get? k = some v →
        Str.contains (getPoolKey info.id true) (v.dropWhile (· ≠ ':')) = false)
    (hempty : isEmpty = false → isLbEmpty new.externalIds = false) :
    o.Gone row (nb.cleaned o.lbId isEmpty new) := by
  have hrow := (selectOvnLb_ok h.selected).1
  have hcases : ∀ {row'}, row' ∈ (nb.cleaned o.lbId isEmpty new).lbsNamed o.lbId → _ :=
    Nb.lbsNamed_cleaned hw hrow hu hn
  refine ⟨fun row' hm up' hk => ?_, fun info ho row' hm k v hs hv => ?_, fun row' hm hru he => ?_⟩
  · rcases hcases hm with ⟨hm, hne⟩ | ⟨-, rfl⟩ | ⟨rfl, -⟩
    · exact hne (congrArg _ (h.sole row' hm up' hk).1)
    · exact hkeys up' hk
    · exact hkeys up' hk
  · rcases hcases hm with ⟨hm, hne⟩ | ⟨-, rfl⟩ | ⟨rfl, -⟩
    · exact contains_dropWhile_of_contains
        (h.named info ho row' hm (fun he => hne (congrArg _ he)) k v hs hv)
    · exact hvalues info ho k v hs hv
    · exact hvalues info ho k v hs hv
  · rcases hcases hm with ⟨-, hne⟩ | ⟨hf, rfl⟩ | ⟨rfl, hsole⟩
    · exact absurd hru hne
    · rw [hempty hf] at he
      cases he
    · exact ⟨rfl, hsole⟩

theorem leavesNothing_listener {info : ListenerInfo} (hw : nb.WellFormed)
    (h : (listener info).Held up row nb) :
    LeavesNothing env (listener info) row nb ↔ up = true := by
  have hrow := (selectOvnLb_ok h.selected).1
  have hget := hw.lb?_of_mem (Nb.mem_lbsNamed.mp hrow).1
  have hhandle : ∀ nb, (handle env (listener info).request).run Nb.apply nb =
      (some <$> listenerDelete env info).run Nb.apply nb := fun _ => rfl
  have hsel : selectOvnLb info.protocol (nb.lbsNamed info.loadbalancerId) = .ok row := h.selected
  simp only [LeavesNothing, handled_eq, hhandle, Prog.run_map, listenerDelete, Prog.run_bind,
    Prog.run_attempt, run_findOvnLb, hsel, run_readLb, live_of_lb? hget]
  cases up with
  | false =>
      have hkey : row.externalIds.contains (getListenerKey info.id true) = false := by
        rw [Dict.contains_eq_false_iff]
        exact fun hk => by cases (h.sole row hrow true hk).2
      simp only [hkey, Bool.false_eq_true, if_false, Prog.run_pure, iff_false]
      intro hgone
      exact (hgone _ rfl (reports_listener.mpr rfl)).keys row hrow false h.key
  | true =>
      have hkey : row.externalIds.contains (getListenerKey info.id true) = true :=
        (Dict.contains_iff _ _).mpr h.key
      have hkeys : ∀ up', getListenerKey info.id up' ∉
          (row.externalIds.erase (getListenerKey info.id true)).keys := by
        intro up' hk
        rw [Dict.mem_keys_erase] at hk
        obtain ⟨-, rfl⟩ := h.sole row hrow up' hk.1
        exact hk.2 rfl
      have hgone : ∀ vips, (listener info).Gone row (nb.cleaned info.loadbalancerId
          (isLbEmpty (row.externalIds.erase (getListenerKey info.id true))) { row with
            externalIds := row.externalIds.erase (getListenerKey info.id true), vips }) :=
        fun vips => h.gone hw rfl rfl hkeys (by rintro _ ⟨⟩) id
      simp only [hkey, if_true, Prog.run_bind, Prog.run_attempt, run_listenerDeleteOn hw hget,
        iff_true]
      cases hd : nb.cleaningDeletes info.loadbalancerId
          (isLbEmpty (row.externalIds.erase (getListenerKey info.id true))) with
      | true =>
          intro s _ _
          have hx := hgone row.vips
          rw [Nb.cleaned_of_deletes hd] at hx
          exact hx
      | false =>
          simp only [Bool.false_eq_true, if_false]
          cases frameVipIps env row.externalIds
              (row.externalIds.erase (getListenerKey info.id true)) with
          | error e =>
              intro s hs hr
              cases hs
              exact absurd (reports_listener.mp hr) (by decide)
          | ok vips => exact fun s _ _ => hgone vips

theorem leavesNothing_pool {info : PoolInfo} (hw : nb.WellFormed)
    (h : (pool info).Held up row nb) : LeavesNothing env (pool info) row nb ↔
      up = true ∨ isLbEmpty (row.externalIds.erase (getPoolKey info.id false)) = false := by
  have hrow := (selectOvnLb_ok h.selected).1
  have hget := hw.lb?_of_mem (Nb.mem_lbsNamed.mp hrow).1
  have hhandle : ∀ nb, (handle env (pool info).request).run Nb.apply nb =
      (some <$> poolDelete env info).run Nb.apply nb := fun _ => rfl
  have hsel : selectOvnLb info.protocol (nb.lbsNamed info.loadbalancerId) = .ok row := h.selected
  obtain ⟨options, hrun⟩ := run_poolDeleteOn env hw hget info
  simp only [LeavesNothing, handled_eq, hhandle, Prog.run_map, poolDelete, Prog.run_bind,
    Prog.run_attempt, run_findOvnLb, hsel, run_readLb, live_of_lb? hget, hrun]
  have hdetached := keys_detachPool info.id row.externalIds
  have hgone : ∀ vips, (isLbEmpty (row.externalIds.erase (getPoolKey info.id true)) = false →
      isLbEmpty (poolDeletedKeys info.id row.externalIds) = false) →
      (pool info).Gone row (nb.cleaned info.loadbalancerId
        (isLbEmpty (detachPool (getPoolKey info.id true) row.externalIds
          (row.externalIds.erase (getPoolKey info.id true))))
        { row with externalIds := poolDeletedKeys info.id row.externalIds, vips, options }) := by
    intro vips hempty
    refine h.gone hw rfl rfl (poolKey_notMem_poolDeletedKeys info.id row.externalIds) ?_ ?_
    · rintro info' ho k v hs hv
      cases ho
      exact value_poolDeletedKeys hs hv
    · rw [isLbEmpty_congr hdetached]
      exact hempty
  cases up with
  | true =>
      have hkey : row.externalIds.contains (getPoolKey info.id true) = true :=
        (Dict.contains_iff _ _).mpr h.key
      have hfalse : getPoolKey info.id false ∉ row.externalIds.keys :=
        fun hk => by cases (h.sole row hrow false hk).2
      have hsame : isLbEmpty (poolDeletedKeys info.id row.externalIds) =
          isLbEmpty (row.externalIds.erase (getPoolKey info.id true)) := by
        refine isLbEmpty_congr ?_
        rw [keys_poolDeletedKeys, Dict.erase_of_notMem]
        rw [Dict.mem_keys_erase]
        exact fun hk => hfalse hk.1
      simp only [hkey, if_true, true_or, iff_true]
      cases frameVipIps env row.externalIds
          (row.externalIds.erase (getPoolKey info.id true)) with
      | error e =>
          intro s hs hr
          cases hs
          exact absurd (reports_pool.mp hr) (by decide)
      | ok vips => exact fun s _ _ => hgone vips fun he => hsame.trans he
  | false =>
      have htrue : getPoolKey info.id true ∉ row.externalIds.keys :=
        fun hk => by cases (h.sole row hrow true hk).2
      have hkey : row.externalIds.contains (getPoolKey info.id true) = false :=
        (Dict.contains_eq_false_iff _ _).mpr htrue
      have hleft : isLbEmpty (poolDeletedKeys info.id row.externalIds) =
          isLbEmpty (row.externalIds.erase (getPoolKey info.id false)) := by
        refine isLbEmpty_congr ?_
        rw [keys_poolDeletedKeys, Dict.erase_of_notMem htrue]
      simp only [hkey, Bool.false_eq_true, if_false, false_or]
      constructor
      · intro hdelete
        have hg := hdelete _ rfl (reports_pool.mpr rfl)
        -- the disabled key is still counted, so the row is not cleaned
        have hcounted : isLbEmpty (detachPool (getPoolKey info.id true) row.externalIds
            (row.externalIds.erase (getPoolKey info.id true))) = false := by
          rw [isLbEmpty_congr hdetached, Dict.erase_of_notMem htrue, Bool.eq_false_iff]
          exact fun he => (Table.notMem_of_isLbEmpty he info.id false).2 h.key
        simp only [hcounted, Nb.cleaned, Bool.false_eq_true, if_false] at hg
        have hnew : ({ row with
            externalIds := poolDeletedKeys info.id row.externalIds, options } : LoadBalancer) ∈
              (nb.putLb { row with
                externalIds := poolDeletedKeys info.id row.externalIds, options }).lbsNamed
                  info.loadbalancerId :=
          Nb.mem_lbsNamed.mpr
            ⟨(Nb.mem_putLb (by exact hget)).mpr (.inl rfl), (Nb.mem_lbsNamed.mp hrow).2⟩
        rw [← hleft, Bool.eq_false_iff]
        intro he
        have hnone := (hg.empty _ hnew rfl he).1
        cases hnone.symm.trans h.protocol
      · exact fun he s _ _ => hgone row.vips fun _ => hleft.trans he

/-- A deletion leaves nothing exactly when the object was enabled, or is a disabled pool beside
other objects. -/
theorem leavesNothing_iff (hw : nb.WellFormed) (h : o.Held up row nb) :
    LeavesNothing env o row nb ↔ up = true ∨
      ∃ info, o = .pool info ∧ isLbEmpty (row.externalIds.erase (o.key false)) = false := by
  cases o with
  | listener info =>
      rw [leavesNothing_listener hw h]
      exact ⟨.inl, fun hc => hc.elim id fun ⟨_, ho, _⟩ => nomatch ho⟩
  | pool info =>
      rw [leavesNothing_pool hw h]
      exact ⟨fun hc => hc.imp_right fun he => ⟨info, rfl, he⟩,
        fun hc => hc.imp_right fun ⟨_, _, he⟩ => he⟩

end Deletion

section Example

/-- The only pool of a load balancer without listeners, created disabled. -/
def exampleIdlePool : Nb := handled exampleEnv (.poolCreate
  { exampleServedPool with listenerId := none, adminStateUp := some false }) exampleCreated

def exampleIdleRow : LoadBalancer :=
  (exampleIdlePool.lbsNamed (exampleId 'a')).head (by decide +kernel)

theorem held_exampleIdlePool :
    (Deletion.pool exampleServedPool).Held false exampleIdleRow exampleIdlePool := by
  have hrows : exampleIdlePool.lbsNamed (exampleId 'a') = [exampleIdleRow] := by decide +kernel
  refine ⟨by decide +kernel, by decide +kernel, by decide +kernel, fun row hrow up hk => ?_,
    fun info ho row hrow hne => ?_⟩
  · have hrow' : row ∈ exampleIdlePool.lbsNamed (exampleId 'a') := hrow
    rw [hrows] at hrow'
    obtain rfl := List.mem_singleton.mp hrow'
    cases up with
    | true => exact absurd hk (by decide +kernel)
    | false => exact ⟨rfl, rfl⟩
  · have hrow' : row ∈ exampleIdlePool.lbsNamed (exampleId 'a') := hrow
    rw [hrows] at hrow'
    exact absurd (List.mem_singleton.mp hrow') hne

theorem leavesNothing_iff_example :
    (Deletion.pool exampleServedPool).LeavesNothing exampleEnv exampleIdleRow exampleIdlePool ↔
      false = true ∨ ∃ info, Deletion.pool exampleServedPool = .pool info ∧
        isLbEmpty (exampleIdleRow.externalIds.erase
          ((Deletion.pool exampleServedPool).key false)) = false :=
  Deletion.leavesNothing_iff ⟨by decide +kernel, by decide +kernel⟩ held_exampleIdlePool

/-- The row keeps its protocol although nothing is left on it. -/
theorem exampleIdlePool_leaves : ¬ (Deletion.pool exampleServedPool).LeavesNothing exampleEnv
    exampleIdleRow exampleIdlePool := by
  intro h
  have hs : (((handle exampleEnv (.poolDelete exampleServedPool)).run Nb.apply
      exampleIdlePool).1) = .ok (some (poolStatusOf exampleServedPool DELETED none ACTIVE
        (some []))) := by decide +kernel
  have hempty := (h _ hs (Deletion.reports_pool.mpr rfl)).empty
  have hrow : ∃ row ∈ (handled exampleEnv (.poolDelete exampleServedPool)
      exampleIdlePool).lbsNamed (exampleId 'a'), row.uuid = exampleIdleRow.uuid ∧
        isLbEmpty row.externalIds = true ∧ row.protocol ≠ none := by decide +kernel
  obtain ⟨row, hm, hu, he, hp⟩ := hrow
  exact hp (hempty row hm hu he).1

end Example

end OvnOctavia

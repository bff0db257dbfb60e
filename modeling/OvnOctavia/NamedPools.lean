import OvnOctavia.PoolMembers
import OvnOctavia.SameTraffic

/-!
The pool that the value of a listener names, against the pool Octavia knows the listener to
have. The value may still name a pool that is gone, but no pool that is there and is not
the listener's.
-/

namespace OvnOctavia

section Conditions

/-- The pool a listener has, as Octavia knows it. -/
def History.Names (h : History) (l x : Str) : Prop :=
  ∃ r ∈ h.listeners, r.id = l ∧ r.defaultPool = some x

/-- The member was created in the pool. -/
def History.Made (h : History) (x : Str) (d : MemberData) : Prop :=
  ∃ m ∈ h.members, m.id = d.id ∧ m.poolId = x ∧ m.address = d.ip ∧ m.port = d.port ∧
    m.subnetId = d.subnet

/-- What Octavia sees to besides: a pool is created for a listener that has no other,
a member is created with a new id, and requests on it name it as it was created. -/
def History.IsOrderly (h : History) : Request → Prop
  | .poolCreate info => ∀ l x, listenerOf info = some l → h.Names l x → x = info.id
  | .memberCreate info => info.id ∉ h.taken
  | .memberUpdate info => ∃ m ∈ h.members, m.id = info.id
  | .memberDelete info => ∃ poolId d, info.poolId = some poolId ∧ info.Describes d ∧
      h.Made poolId d
  | _ => True

variable {h : History} {r : Request} {l x : Str} {d : MemberData}

theorem MemberInfo.Describes.eq {info : MemberInfo} {d d' : MemberData} (hd : info.Describes d)
    (hd' : info.Describes d') : d = d' :=
  Option.some.inj (hd.data_eq.symm.trans hd'.data_eq)

theorem History.Names.next (hn : h.Names l x)
    (hu : ∀ info, r = .listenerUpdate info → info.defaultPoolId = none ∨ info.id ≠ l)
    (hc : ∀ info, r = .poolCreate info → listenerOf info = some l → x = info.id)
    (hd : ∀ info, r = .poolDelete info → info.id ≠ x) : (h.next r).Names l x := by
  obtain ⟨a, ha, rfl, hx⟩ := hn
  have hset : ∀ (h' : History) id pool, h'.listeners = h.listeners →
      (id = a.id → pool = some x) → (h'.setDefaultPool id pool).Names a.id x := by
    intro h' id pool hl hp
    refine ⟨_, List.mem_map_of_mem (hl ▸ ha), ?_, ?_⟩
    · split
      · rfl
      · rfl
    · split
      · next he => exact hp he.symm
      · exact hx
  cases r with
  | listenerCreate info => exact ⟨a, List.mem_append_left _ ha, rfl, hx⟩
  | listenerUpdate info =>
      rw [History.next]
      split
      · next pool hp =>
          refine hset h _ _ rfl fun he => ?_
          rcases hu info rfl with hnone | hne
          · rw [hnone] at hp
            cases hp
          · exact absurd he hne
      · exact ⟨a, ha, rfl, hx⟩
  | poolCreate info =>
      simp only [History.next]
      split
      · next l hl => exact hset _ _ _ rfl fun he => by rw [hc info rfl (he ▸ hl)]
      · exact ⟨a, ha, rfl, hx⟩
  | poolDelete info =>
      refine ⟨_, List.mem_map_of_mem ha, ?_, ?_⟩
      · split
        · rfl
        · rfl
      · rw [if_neg]
        · exact hx
        · rw [hx, Option.some.injEq]
          exact fun he => hd info rfl he.symm
  | memberUpdate info =>
      rw [History.next]
      split
      · exact ⟨a, ha, rfl, hx⟩
      · exact ⟨a, ha, rfl, hx⟩
  | _ => exact ⟨a, ha, rfl, hx⟩

theorem History.Made.next (hm : h.Made x d) (r : Request) : (h.next r).Made x d := by
  obtain ⟨m, hm, hd⟩ := hm
  cases r with
  | memberCreate info => exact ⟨m, List.mem_append_left _ hm, hd⟩
  | memberUpdate info =>
      rw [History.next]
      split
      · refine ⟨_, List.mem_map_of_mem hm, ?_⟩
        split
        · exact hd
        · exact hd
      · exact ⟨m, hm, hd⟩
  | listenerUpdate info =>
      rw [History.next]
      split
      · exact ⟨m, hm, hd⟩
      · exact ⟨m, hm, hd⟩
  | poolCreate info =>
      simp only [History.next]
      split
      · exact ⟨m, hm, hd⟩
      · exact ⟨m, hm, hd⟩
  | _ => exact ⟨m, hm, hd⟩

/-- The members created have ids of their own, which are in use. -/
structure History.MembersDistinct (h : History) : Prop where
  ids : (h.members.map MemberRecord.id).Nodup
  taken : ∀ m ∈ h.members, m.id ∈ h.taken

theorem History.MembersDistinct.eq (hd : h.MembersDistinct) {y : Str} {d' : MemberData}
    (hm : h.Made x d) (hm' : h.Made y d') (he : d.id = d'.id) : x = y ∧ d = d' := by
  obtain ⟨m, hmem, hid, rfl, ha, hp, hs⟩ := hm
  obtain ⟨m', hmem', hid', rfl, ha', hp', hs'⟩ := hm'
  obtain rfl := List.inj_on_of_nodup_map hd.ids hmem hmem' (hid.trans (he.trans hid'.symm))
  refine ⟨rfl, ?_⟩
  cases d
  cases d'
  simp_all

theorem History.MembersDistinct.next (hd : h.MembersDistinct) (ho : h.IsOrderly r) :
    (h.next r).MembersDistinct := by
  have htaken : ∀ m ∈ h.members, m.id ∈ (h.next r).taken :=
    fun m hm => Kept.taken_next h r (hd.taken m hm)
  cases r with
  | memberCreate info =>
      refine ⟨?_, fun m hm => ?_⟩
      · simp only [History.next, List.map_append, List.map_singleton]
        rw [List.nodup_append]
        refine ⟨hd.ids, List.nodup_singleton _, fun a ha b hb hab => ?_⟩
        rw [List.mem_singleton.mp hb] at hab
        obtain ⟨m, hm, rfl⟩ := List.mem_map.mp ha
        exact ho (hab ▸ hd.taken m hm)
      · rcases List.mem_append.mp hm with hm | hm
        · exact htaken m hm
        · rw [List.mem_singleton.mp hm]
          exact List.mem_cons_self ..
  | memberUpdate info =>
      simp only [History.next] at htaken ⊢
      split
      · next up _ =>
          have hid : ∀ m : MemberRecord,
              (if m.id = info.id then { m with adminStateUp := up } else m).id = m.id := by
            intro m
            split
            · rfl
            · rfl
          refine ⟨?_, fun m hm => ?_⟩
          · rw [List.map_map]
            exact (List.map_congr_left (f := MemberRecord.id ∘ _) (fun m _ => hid m)) ▸ hd.ids
          · obtain ⟨a, ha, rfl⟩ := List.mem_map.mp hm
            rw [hid]
            exact hd.taken a ha
      · exact hd
  | listenerUpdate info =>
      simp only [History.next] at htaken ⊢
      split
      · exact ⟨hd.ids, hd.taken⟩
      · exact hd
  | poolCreate info =>
      simp only [History.next] at htaken ⊢
      split
      · exact ⟨hd.ids, fun m hm => List.mem_cons_of_mem _ (hd.taken m hm)⟩
      · exact ⟨hd.ids, fun m hm => List.mem_cons_of_mem _ (hd.taken m hm)⟩
  | _ => exact ⟨hd.ids, htaken⟩

end Conditions

section Listeners
variable {env : Env} {h : History} {nb : Nb} {r : Request} {row row' : LoadBalancer}
  {e e' : Dict Str Str}

/-- A listener has one key, and the pool its value names is the one it has, or one that is
gone. -/
structure Named (h : History) (e : Dict Str Str) : Prop where
  sole : ∀ l, IsUuid l → getListenerKey l true ∈ e.keys → getListenerKey l false ∉ e.keys
  pool : ∀ l up n x, IsUuid l → IsUuid x →
    e.get? (getListenerKey l up) = some (makeListenerKeyValue n (getPoolKey x true)) →
      h.Names l x ∨ x ∈ h.taken ∧ ∀ b, getPoolKey x b ∉ e.keys

namespace Named

theorem of_base (hk : ∀ k ∈ e.keys, k ∈ baseKeys) : Named h e where
  sole := fun l _ hm => absurd (hk _ hm) (listenerKey_notMem_base l true)
  pool := fun l up _ _ _ _ hg => absurd (hk _ (mem_keys_of_get? hg)) (listenerKey_notMem_base l up)

theorem of_same (hn : Named h e)
    (hl : ∀ l up, e'.get? (getListenerKey l up) = e.get? (getListenerKey l up))
    (hp : ∀ x b, IsUuid x → getPoolKey x b ∈ e'.keys → ∃ b', getPoolKey x b' ∈ e.keys) :
    Named h e' where
  sole := by
    intro l hid hm hm'
    obtain ⟨v, hv⟩ := get?_of_mem_keys hm
    obtain ⟨v', hv'⟩ := get?_of_mem_keys hm'
    exact hn.sole l hid (mem_keys_of_get? (hl l true ▸ hv)) (mem_keys_of_get? (hl l false ▸ hv'))
  pool := by
    intro l up n x hid hx hg
    refine (hn.pool l up n x hid hx (hl l up ▸ hg)).imp_right fun ⟨ht, hno⟩ => ⟨ht, fun b hm => ?_⟩
    obtain ⟨b', hm'⟩ := hp x b hx hm
    exact hno b' hm'

theorem of_sameKeys (hn : Named h e) (hs : SameKeys e e') : Named h e' := by
  refine hn.of_same (fun l up => ?_) fun x b _ hm => ⟨b, ?_⟩
  · exact hs.get? _ (Table.notMem_peripheralKeys (listenerKey_notMem_base l up))
  · exact (Table.mem_keys_of_sameKeys hs (poolKey_notMem_base x b)).mp hm

theorem withStatuses (hn : Named h e) (d : Dict Str Str) : Named h (withStatuses e d) := by
  refine hn.of_same (fun l up => ?_) fun x b _ hm => ⟨b, ?_⟩
  · exact Readable.get?_withStatuses (Readable.withStatuses_ne (listenerKey_notMem_base l up)) e d
  · exact (Readable.mem_keys_withStatuses (Readable.withStatuses_ne (poolKey_notMem_base x b))
      e d).mp hm

theorem set_pool (hn : Named h e) {id : Str} {up : Bool} {v w : Str}
    (hv : e.get? (getPoolKey id up) = some v) : Named h (e.set (getPoolKey id up) w) := by
  refine hn.of_same (fun l b => ?_) fun x b _ hm => ⟨b, ?_⟩
  · exact Dict.get?_set_of_ne _ _ (listenerKey_ne_poolKey l id b up)
  · rcases (Dict.mem_keys_set _ _ _ _).mp hm with he | hm
    · exact he ▸ mem_keys_of_get? hv
    · exact hm

/-- The requests that do not give the listener another pool. -/
theorem next (hn : Named h e)
    (hu : ∀ info, r = .listenerUpdate info → info.defaultPoolId = none ∨
      ∀ up, getListenerKey info.id up ∉ e.keys)
    (hc : ∀ info, r = .poolCreate info → ∀ l x, listenerOf info = some l → h.Names l x →
      x = info.id)
    (hd : ∀ info, r = .poolDelete info → info.id ∈ h.taken ∧ ∀ b, getPoolKey info.id b ∉ e.keys) :
    Named (h.next r) e where
  sole := hn.sole
  pool := by
    intro l up n x hl hx hg
    rcases hn.pool l up n x hl hx hg with hname | ⟨ht, hno⟩
    · by_cases hdel : ∃ info, r = .poolDelete info ∧ info.id = x
      · obtain ⟨info, hr, rfl⟩ := hdel
        obtain ⟨ht, hno⟩ := hd info hr
        exact .inr ⟨Kept.taken_next h r ht, hno⟩
      · refine .inl (hname.next (fun info hr => ?_) (fun info hr hlis => ?_) fun info hr he => ?_)
        · refine (hu info hr).imp_right fun hno he => ?_
          exact hno up (he ▸ mem_keys_of_get? hg)
        · exact hc info hr l x hlis hname
        · exact hdel ⟨info, hr, he⟩
    · exact .inr ⟨Kept.taken_next h r ht, hno⟩

theorem set_listener (hn : Named h e) {id v : Str} {up : Bool} (hid : IsUuid id)
    (hother : getListenerKey id (!up) ∉ e.keys)
    (hv : ∀ n x, IsUuid x → v = makeListenerKeyValue n (getPoolKey x true) →
      h.Names id x ∨ x ∈ h.taken ∧ ∀ b, getPoolKey x b ∉ e.keys) :
    Named h (e.set (getListenerKey id up) v) where
  sole := by
    intro l hl
    rw [Dict.mem_keys_set, Dict.mem_keys_set]
    by_cases hli : l = id
    · subst hli
      intro ht hf
      cases up with
      | true => exact hother (hf.resolve_left (getListenerKey_true_ne_false l).symm)
      | false => exact hother (ht.resolve_left (getListenerKey_true_ne_false l))
    · have hne : ∀ b, getListenerKey l b ≠ getListenerKey id up :=
        fun b he => hli (getListenerKey_inj hl hid he).1
      exact fun ht hf => hn.sole l hl (ht.resolve_left (hne true)) (hf.resolve_left (hne false))
  pool := by
    intro l b n x hl hx hg
    have hkeys : ∀ c, getPoolKey x c ∉ e.keys →
        getPoolKey x c ∉ (e.set (getListenerKey id up) v).keys := by
      intro c hno hm
      rcases (Dict.mem_keys_set _ _ _ _).mp hm with he | hm
      · exact listenerKey_ne_poolKey id x up c he.symm
      · exact hno hm
    rw [Dict.get?_set] at hg
    split at hg
    · next he =>
        obtain ⟨rfl, rfl⟩ := getListenerKey_inj hl hid he
        exact (hv n x hx (Option.some.inj hg)).imp_right
          (And.imp_right fun hno c => hkeys c (hno c))
    · exact (hn.pool l b n x hl hx hg).imp_right (And.imp_right fun hno c => hkeys c (hno c))

theorem erase_listener (hn : Named h e) (id : Str) (up : Bool) :
    Named h (e.erase (getListenerKey id up)) where
  sole := by
    intro l hl ht hf
    exact hn.sole l hl ((Dict.mem_keys_erase _ _ _).mp ht).1 ((Dict.mem_keys_erase _ _ _).mp hf).1
  pool := by
    intro l b n x hl hx hg
    rw [Dict.get?_erase] at hg
    split at hg
    · cases hg
    · refine (hn.pool l b n x hl hx hg).imp_right (And.imp_right fun hno c hm => ?_)
      exact hno c ((Dict.mem_keys_erase _ _ _).mp hm).1

end Named

theorem newListenerKey (info : ListenerInfo) (up : Bool) :
    ∃ up', (info.adminStateUp.map (getListenerKey info.id)).getD (getListenerKey info.id up) =
      getListenerKey info.id up' := by
  cases info.adminStateUp with
  | none => exact ⟨up, rfl⟩
  | some b => exact ⟨b, rfl⟩

/-- An update gives the listener its key and its value anew. -/
theorem get?_updatedListenerKeys {info : ListenerInfo} {key value : Str}
    (hv : e.get? key = some value) (k : Str) :
    (updatedListenerKeys info key value e).get? k =
      ((e.erase key).set ((info.adminStateUp.map (getListenerKey info.id)).getD key)
        ((info.defaultPoolId.map fun pool =>
          makeListenerKeyValue info.protocolPort (getPoolKey (strId pool) true)).getD value)).get?
            k := by
  simp only [updatedListenerKeys]
  generalize (info.adminStateUp.map (getListenerKey info.id)).getD key = newKey
  have hmoved : ∀ w, ((if key ≠ newKey then (e.set newKey value).erase key else e).set
      newKey w).get? k = ((e.erase key).set newKey w).get? k := by
    intro w
    rw [Dict.get?_set, Dict.get?_set]
    split
    · rfl
    · next hk =>
        split
        · rw [Dict.get?_erase, Dict.get?_erase, Dict.get?_set_of_ne _ _ hk]
        · next he =>
            rw [not_not] at he
            rw [Dict.get?_erase_of_ne _ (he ▸ hk)]
  cases info.defaultPoolId with
  | some pool => exact hmoved _
  | none =>
      have hkey : (if key ≠ newKey then (e.set newKey value).erase key else e).get? newKey =
          some value := by
        split
        · next hne => rw [Dict.get?_erase_of_ne _ (Ne.symm hne), Dict.get?_set_self]
        · next he =>
            rw [not_not] at he
            rw [← he, hv]
      refine Eq.trans ?_ (hmoved value)
      rw [Dict.set_of_get? hkey]

theorem status_updatedListenerKeys {info : ListenerInfo} {up : Bool} {value : Str}
    (hv : e.get? (getListenerKey info.id up) = some value) :
    (updatedListenerKeys info (getListenerKey info.id up) value e).get? ovnMemberStatusKey =
      e.get? ovnMemberStatusKey := by
  have hne := fun b => (Readable.withStatuses_ne (listenerKey_notMem_base info.id b)).symm
  obtain ⟨up', hnew⟩ := newListenerKey info up
  rw [get?_updatedListenerKeys hv, hnew, Dict.get?_set_of_ne _ _ (hne up'),
    Dict.get?_erase_of_ne _ (hne up)]

section Effects
variable (hk : Kept env h nb) (hr : IsLbRequest env h r) (hs : Source env nb h r row)
include hk hs

theorem Kept.notMem_listener_of_fresh {id : Str} (hid : IsUuid id) (hf : id ∉ h.taken) (up : Bool) :
    getListenerKey id up ∉ row.externalIds.keys := by
  intro hm
  cases hs with
  | present hold hs =>
      rw [Table.mem_keys_of_sameKeys hs.externalIds (listenerKey_notMem_base id up)] at hm
      obtain ⟨p, ⟨x, hx, rfl, -⟩, -⟩ := hk.table.listener _ hold id up hid hm
      exact hf (hk.distinct.listener_taken x hx)
  | provided hfirst hup hvip he hv hc hs =>
      rw [Table.mem_keys_of_sameKeys hs.externalIds (listenerKey_notMem_base id up), he] at hm
      exact listenerKey_notMem_base id up
        (Table.addVipKeys_base _ (Table.baseExternalIds_base _ _ _) _ hm)

theorem Kept.hasListener_of_mem {id : Str} {up : Bool} (hid : IsUuid id)
    (hm : getListenerKey id up ∈ row.externalIds.keys) : ∃ a ∈ h.listeners, a.id = id := by
  cases hs with
  | present hold hs =>
      rw [Table.mem_keys_of_sameKeys hs.externalIds (listenerKey_notMem_base id up)] at hm
      obtain ⟨p, ⟨a, ha, hai, -⟩, -⟩ := hk.table.listener _ hold id up hid hm
      exact ⟨a, ha, hai⟩
  | provided hfirst hup hvip he hv hc hs =>
      rw [Table.mem_keys_of_sameKeys hs.externalIds (listenerKey_notMem_base id up), he] at hm
      exact absurd (Table.addVipKeys_base _ (Table.baseExternalIds_base _ _ _) _ hm)
        (listenerKey_notMem_base id up)

include hr in
theorem Named.poolCreated {info : PoolInfo} {up : Bool} (hri : r = .poolCreate info)
    (hread : Readable env row.externalIds) (hn : Named h row.externalIds) (ho : h.IsOrderly r) :
    Named (h.next r) (poolCreateExternalIds info up row.externalIds) := by
  subst hri
  obtain ⟨-, hid, hfresh, hlis⟩ := hr
  have hkeys : ∀ l b, getListenerKey l b ∈ (poolCreateExternalIds info up row.externalIds).keys →
      getListenerKey l b ∈ row.externalIds.keys := by
    intro l b hm
    exact (Table.mem_keys_poolCreateExternalIds hm).resolve_right (listenerKey_ne_poolKey l _ b up)
  have hold : ∀ l b n x, IsUuid l → IsUuid x → row.externalIds.get? (getListenerKey l b) =
      some (makeListenerKeyValue n (getPoolKey x true)) → (h.next (.poolCreate info)).Names l x ∨
        x ∈ (h.next (.poolCreate info)).taken ∧
          ∀ b, getPoolKey x b ∉ (poolCreateExternalIds info up row.externalIds).keys := by
    intro l b n x hl hx hg
    rcases hn.pool l b n x hl hx hg with hname | ⟨ht, hno⟩
    · refine .inl (hname.next (by simp) (fun info' hri hlis' => ?_) (by simp))
      cases hri
      exact ho l x hlis' hname
    · refine .inr ⟨Kept.taken_next h _ ht, fun c hm => ?_⟩
      rcases Table.mem_keys_poolCreateExternalIds hm with hm | he
      · exact hno c hm
      · exact hfresh ((getPoolKey_inj hx hid he).1 ▸ ht)
  refine ⟨fun l hl ht hf => hn.sole l hl (hkeys l true ht) (hkeys l false hf), ?_⟩
  intro l b n x hl hx hg
  rcases poolCreateExternalIds_cases info up row.externalIds with he | ⟨l', v, hl', hv, -, he⟩
  · rw [he, Dict.get?_set_of_ne _ _ (listenerKey_ne_poolKey l _ b up)] at hg
    exact hold l b n x hl hx hg
  · rw [he, Dict.get?_set, Dict.get?_set_of_ne _ _ (listenerKey_ne_poolKey l _ b up)] at hg
    split at hg
    · next hkey =>
        obtain ⟨rfl, rfl⟩ := getListenerKey_inj hl (hlis l' hl') hkey
        obtain ⟨m, s, rfl, -⟩ := hread.listener l true v hl hv
        rw [Option.some.injEq, makeListenerKeyValue_append] at hg
        obtain ⟨-, rfl⟩ := eq_of_appended hid hx (makeListenerKeyValue_inj hg).2
        obtain ⟨a, ha, rfl⟩ := hk.hasListener_of_mem hs hl (mem_keys_of_get? hv)
        left
        simp only [History.next, hl']
        refine ⟨_, List.mem_map_of_mem ha, ?_, ?_⟩
        · rw [if_pos rfl]
        · rw [if_pos rfl]
    · exact hold l b n x hl hx hg

end Effects

theorem Named.poolDeleted {info : PoolInfo} (hid : IsUuid info.id) (ht : info.id ∈ h.taken)
    (hread : Readable env e) (hn : Named h e) :
    Named (h.next (.poolDelete info)) (poolDeletedKeys info.id e) where
  sole := by
    intro l hl hm hm'
    exact hn.sole l hl (Table.mem_keys_poolDeletedKeys hm).2 (Table.mem_keys_poolDeletedKeys hm').2
  pool := by
    intro l b n x hl hx hg
    obtain ⟨v, hv⟩ := get?_of_mem_keys (Table.mem_keys_poolDeletedKeys (mem_keys_of_get? hg)).2
    obtain ⟨m, t, rfl, -⟩ := hread.listener l b v hl hv
    rcases @Readable.get?_detached _ _ hread info.id _ _ _ _ hv with hkept | ⟨-, hempty⟩
    · rw [hg, Option.some.injEq] at hkept
      obtain ⟨rfl, rfl⟩ := makeListenerKeyValue_inj hkept
      by_cases hxi : x = info.id
      · refine .inr ⟨hxi ▸ ht, fun c hm => ?_⟩
        obtain ⟨w, hw⟩ := get?_of_mem_keys hm
        rw [get?_poolDeletedKeys hread hid hx, if_pos hxi] at hw
        cases hw
      · rcases hn.pool l b n x hl hx hv with hname | ⟨ht, hno⟩
        · refine .inl (hname.next (by simp) (by simp) fun info' hri he => ?_)
          cases hri
          exact hxi he.symm
        · exact .inr ⟨ht, fun c hm => hno c (Table.mem_keys_poolDeletedKeys hm).2⟩
    · rw [hempty, Option.some.injEq] at hg
      have hnil := (makeListenerKeyValue_inj hg).2
      simp [getPoolKey, lbExtIdsPoolPrefix] at hnil

theorem Named.listenerUpdated {info : ListenerInfo} {key value : Str} (hid : IsUuid info.id)
    (hlis : ∃ a ∈ h.listeners, a.id = info.id) (hn : Named h e)
    (hkey : presentListenerKey e info.id = some key) (hv : e.get? key = some value) :
    Named (h.next (.listenerUpdate info)) (updatedListenerKeys info key value e) := by
  obtain ⟨up, rfl, hm⟩ := Table.presentListenerKey_eq hkey
  have hgone : ∀ b, getListenerKey info.id b ∉ (e.erase (getListenerKey info.id up)).keys := by
    intro b hb
    rw [Dict.mem_keys_erase] at hb
    have hsole := hn.sole info.id hid
    cases b with
    | true =>
        cases up with
        | true => exact hb.2 rfl
        | false => exact hsole hb.1 hm
    | false =>
        cases up with
        | true => exact hsole hm hb.1
        | false => exact hb.2 rfl
  obtain ⟨up', hnew⟩ := newListenerKey info up
  have herased : Named (h.next (.listenerUpdate info)) (e.erase (getListenerKey info.id up)) := by
    refine (hn.erase_listener info.id up).next (fun info' hri => .inr ?_) (by simp) (by simp)
    cases hri
    exact hgone
  have hset : Named (h.next (.listenerUpdate info))
      ((e.erase (getListenerKey info.id up)).set (getListenerKey info.id up')
        ((info.defaultPoolId.map fun pool =>
          makeListenerKeyValue info.protocolPort (getPoolKey (strId pool) true)).getD value)) := by
    refine herased.set_listener hid (hgone _) fun n x hx he => ?_
    cases hd : info.defaultPoolId with
    | none =>
        rw [hd, Option.map_none, Option.getD_none] at he
        rw [he] at hv
        simp only [History.next, hd]
        refine (hn.pool info.id up n x hid hx hv).imp_right (And.imp_right fun hno c hc => ?_)
        exact hno c ((Dict.mem_keys_erase _ _ _).mp hc).1
    | some pool =>
        rw [hd, Option.map_some, Option.getD_some] at he
        have hpool := (makeListenerKeyValue_inj he).2
        simp only [getPoolKey, if_true, List.append_nil, List.append_cancel_left_eq] at hpool
        left
        obtain ⟨a, ha, hai⟩ := hlis
        simp only [History.next, hd]
        refine ⟨_, List.mem_map_of_mem ha, ?_, ?_⟩
        · rw [if_pos hai]
          exact hai
        · rw [if_pos hai]
          cases pool with
          | some y => exact congrArg some hpool
          | none =>
              -- the text of no pool is no id
              rw [← hpool] at hx
              exact absurd hx (by decide)
  refine hset.of_same (fun l b => ?_) fun x b _ hm => ?_
  · rw [get?_updatedListenerKeys hv, hnew]
  · obtain ⟨w, hw⟩ := get?_of_mem_keys hm
    rw [get?_updatedListenerKeys hv, hnew] at hw
    exact ⟨b, mem_keys_of_get? hw⟩

/-- Adding and removing members leaves the listeners and the keys. -/
theorem Named.addsMember {info : MemberInfo} {poolId value : Str} {b : Bool} {row₁ : LoadBalancer}
    (hn : Named h row.externalIds)
    (hv : row.externalIds.get? (getPoolKey poolId b) = some value)
    (ha : AddsMember env info (getPoolKey poolId b) value row row₁) : Named h row₁.externalIds := by
  rcases ha with ⟨text, -, -, rfl⟩ | ⟨text, vips, -, -, -, rfl⟩
  · exact hn
  · exact hn.set_pool hv

theorem Named.removesMember {info : MemberInfo} {poolId value : Str} {b : Bool}
    {row₁ : LoadBalancer} (hn : Named h row.externalIds)
    (hv : row.externalIds.get? (getPoolKey poolId b) = some value)
    (hrem : RemovesMember env nb info (getPoolKey poolId b) value row row₁) :
    Named h row₁.externalIds := by
  rcases hrem with ⟨rfl, -⟩ | ⟨text, row₀, vips, -, -, hc, -, rfl⟩
  · exact hn
  · have hv₀ := (samePools_of_sameKeys hc.externalIds poolId b).trans hv
    exact (hn.of_sameKeys hc.externalIds).set_pool hv₀

theorem Source.named (hn : ∀ row ∈ nb.lbsNamed h.lbId, Named h row.externalIds)
    (hs : Source env nb h r row) : Named h row.externalIds := by
  cases hs with
  | present hold hs => exact (hn _ hold).of_sameKeys hs.externalIds
  | provided hfirst hup hvip he hv hc hs =>
      refine Named.of_sameKeys (.of_base fun k hk => ?_) hs.externalIds
      rw [he] at hk
      exact Table.addVipKeys_base _ (Table.baseExternalIds_base _ _ _) k hk

theorem Effect.named (hk : Kept env h nb) (hr : IsLbRequest env h r) (ho : h.IsOrderly r)
    (hs : Source env nb h r row) (hread : Readable env row.externalIds)
    (hn : Named h row.externalIds) (he : Effect env nb r row row') :
    Named (h.next r) row'.externalIds := by
  have htaken : ∀ info, r = .poolDelete info → info.id ∈ h.taken := by
    rintro info rfl
    obtain ⟨x, hx, hxi, -⟩ := hr.2
    exact hxi ▸ hk.distinct.pool_taken x hx
  have hother : (∀ info, r ≠ .listenerUpdate info) → (∀ info, r ≠ .poolCreate info) →
      (∀ info, r ≠ .poolDelete info) → Named (h.next r) row.externalIds := fun hu hc hd =>
    hn.next (fun info hri => absurd hri (hu info)) (fun info hri => absurd hri (hc info))
      fun info hri => absurd hri (hd info)
  cases he with
  | spared hspares hsame =>
      refine (hn.next (fun info hri => ?_) (fun info hri => ?_) fun info hri => ?_).of_sameKeys
        hsame.externalIds
      · subst hri
        exact hspares
      · subst hri
        exact ho
      · have hgone := htaken info hri
        subst hri
        exact ⟨hgone, hspares⟩
  | @listenerCreated info up vips _ _ hup hf hsame =>
      obtain ⟨-, hid, hfresh⟩ := hr
      have hnew := hk.notMem_listener_of_fresh hs hid hfresh
      have hnamed := hother (by simp) (by simp) (by simp)
      refine (hnamed.set_listener hid (hnew _) fun n x hx hv => ?_).of_sameKeys hsame.externalIds
      refine .inl ⟨_, List.mem_append_right _ (List.mem_singleton_self _), rfl, ?_⟩
      have hpool := (makeListenerKeyValue_inj hv).2
      rw [defaultPoolKey] at hpool
      split at hpool
      · next c cs hd =>
          simp only [getPoolKey, if_true, List.append_nil, List.append_cancel_left_eq] at hpool
          simp only [hd, Option.join_some, hpool]
      · simp [getPoolKey, lbExtIdsPoolPrefix] at hpool
  | listenerDeleted hf hsame =>
      have hnamed := hother (by simp) (by simp) (by simp)
      exact (hnamed.erase_listener _ _).of_sameKeys hsame.externalIds
  | listenerUpdated hkey hv hf hsame =>
      obtain ⟨-, hid, a, ha, hai, -⟩ := hr
      exact (hn.listenerUpdated hid ⟨a, ha, hai⟩ hkey hv).of_sameKeys hsame.externalIds
  | poolCreated hup hsame =>
      exact (Named.poolCreated hk hr hs rfl hread hn ho).of_sameKeys hsame.externalIds
  | poolDeleted hf hsame =>
      have hid := hk.isUuid_of_pool hr.2
      exact (Named.poolDeleted hid (htaken _ rfl) hread hn).of_sameKeys hsame.externalIds
  | @poolUpdated info up _ _ _ hup hf hsame =>
      refine Named.of_sameKeys ?_ hsame.externalIds
      refine (hother (by simp) (by simp) (by simp)).of_same (fun l b => ?_) fun x b hx hm => ?_
      · exact get?_movedPoolKeys_of_ne (listenerKey_ne_poolKey l _ b _)
          (listenerKey_ne_poolKey l _ b _) _
      · rcases Table.mem_keys_movedPoolKeys hm with hkept | ⟨he, hfrom⟩
        · exact ⟨b, hkept⟩
        · obtain ⟨rfl, -⟩ := getPoolKey_inj hx hr.2 he
          exact ⟨_, hfrom⟩
  | memberCreated hp hv hadd hsame hst =>
      have hnamed := hother (by simp) (by simp) (by simp)
      have hadded := (hnamed.addsMember hv hadd).of_sameKeys hsame.externalIds
      rcases hst with ⟨rfl, -⟩ | ⟨up, status, -, -, rfl⟩
      · exact hadded
      · exact hadded.withStatuses _
  | memberDeleted hp hv hrem hsame hst =>
      rw [hst]
      have hnamed := hother (by simp) (by simp) (by simp)
      exact ((hnamed.removesMember hv hrem).of_sameKeys hsame.externalIds).withStatuses _
  | memberUpdated hp hkey hup hlast hstatus hvips hrow =>
      rw [hrow]
      exact (hother (by simp) (by simp) (by simp)).withStatuses _

end Listeners

end OvnOctavia

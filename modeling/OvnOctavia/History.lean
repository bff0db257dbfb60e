import OvnOctavia.Handler
import OvnOctavia.Keys

/-!
What Octavia has asked for on one load balancer so far: the listeners and pools
it has created with their protocols, the pool each listener has, and the members
with their data and the admin state asked for last. Records of deleted objects
stay, because their ids are never used again. Runs pair such a history with the
database.
-/

namespace OvnOctavia

structure ListenerRecord where
  id : Str
  protocol : Protocol
  defaultPool : Option Str
  deriving DecidableEq

structure PoolRecord where
  id : Str
  protocol : Protocol
  deriving DecidableEq

structure MemberRecord where
  id : Str
  poolId : Str
  address : Str
  port : Str
  subnetId : Str
  adminStateUp : Bool
  deriving DecidableEq

structure History where
  lbId : Str
  listeners : List ListenerRecord
  pools : List PoolRecord
  members : List MemberRecord
  /-- The ids in use, here or on another load balancer. -/
  taken : List Str
  deriving DecidableEq

namespace History

def new (lbId : Str) (taken : List Str) : History := ⟨lbId, [], [], [], taken⟩

def setDefaultPool (h : History) (listenerId : Str) (pool : Option Str) : History :=
  { h with listeners := h.listeners.map fun l =>
      if l.id = listenerId then { l with defaultPool := pool } else l }

/-- A deleted pool is the pool of no listener. -/
def dropDefaultPool (h : History) (poolId : Str) : History :=
  { h with listeners := h.listeners.map fun l =>
      if l.defaultPool = some poolId then { l with defaultPool := none } else l }

/-- The history after a request. -/
def next (h : History) : Request → History
  | .listenerCreate info =>
      { h with
        listeners := h.listeners ++ [⟨info.id, info.protocol, info.defaultPoolId.join⟩]
        taken := info.id :: h.taken }
  | .listenerUpdate info =>
      match info.defaultPoolId with
      | some pool => h.setDefaultPool info.id pool
      | none => h
  | .poolCreate info =>
      let h' := { h with
        pools := h.pools ++ [⟨info.id, info.protocol⟩]
        taken := info.id :: h.taken }
      match listenerOf info with
      | some listenerId => h'.setDefaultPool listenerId (some info.id)
      | none => h'
  | .poolDelete info => h.dropDefaultPool info.id
  | .memberCreate info =>
      { h with
        members := h.members ++ [⟨info.id, info.poolId.getD [], info.address.getD [],
          info.protocolPort.getD [], info.subnetId.getD [], info.adminStateUp.getD true⟩]
        taken := info.id :: h.taken }
  | .memberUpdate info =>
      match info.adminStateUp with
      | some up => { h with members := h.members.map fun m =>
          if m.id = info.id then { m with adminStateUp := up } else m }
      | none => h
  | _ => h

def HasListener (h : History) (id : Str) (p : Protocol) : Prop :=
  ∃ l ∈ h.listeners, l.id = id ∧ l.protocol = p

def HasPool (h : History) (id : Str) (p : Protocol) : Prop :=
  ∃ r ∈ h.pools, r.id = id ∧ r.protocol = p

@[simp] theorem lbId_setDefaultPool (h : History) (id : Str) (pool : Option Str) :
    (h.setDefaultPool id pool).lbId = h.lbId := rfl

@[simp] theorem lbId_next (h : History) (r : Request) : (h.next r).lbId = h.lbId := by
  cases r <;> simp only [next]
  case listenerUpdate info => split <;> rfl
  case poolCreate info => split <;> rfl
  case memberUpdate info => split <;> rfl
  case poolDelete info => rfl

section Extension

/-- The listeners and pools of a history with their protocols are those of an
extension of it. -/
structure Extends (h h' : History) : Prop where
  lbId : h'.lbId = h.lbId
  listener : ∀ id p, h.HasListener id p → h'.HasListener id p
  pool : ∀ id p, h.HasPool id p → h'.HasPool id p

theorem Extends.refl (h : History) : h.Extends h := ⟨rfl, fun _ _ h => h, fun _ _ h => h⟩

theorem Extends.trans {a b c : History} (h : a.Extends b) (h' : b.Extends c) : a.Extends c :=
  ⟨h'.lbId.trans h.lbId, fun id p hl => h'.listener id p (h.listener id p hl),
    fun id p hp => h'.pool id p (h.pool id p hp)⟩

private theorem hasListener_map {h h' : History} {f : ListenerRecord → ListenerRecord}
    (hf : ∀ l, (f l).id = l.id ∧ (f l).protocol = l.protocol)
    (hh : h'.listeners = h.listeners.map f) {id : Str} {p : Protocol} (hl : h.HasListener id p) :
    h'.HasListener id p := by
  obtain ⟨l, hm, rfl, rfl⟩ := hl
  exact ⟨f l, hh ▸ List.mem_map_of_mem hm, (hf l).1, (hf l).2⟩

theorem extends_setDefaultPool (h : History) (id : Str) (pool : Option Str) :
    h.Extends (h.setDefaultPool id pool) where
  lbId := rfl
  listener := fun _ _ => hasListener_map (fun l => by split <;> exact ⟨rfl, rfl⟩) rfl
  pool := fun _ _ hp => hp

theorem extends_dropDefaultPool (h : History) (id : Str) : h.Extends (h.dropDefaultPool id) where
  lbId := rfl
  listener := fun _ _ => hasListener_map (fun l => by split <;> exact ⟨rfl, rfl⟩) rfl
  pool := fun _ _ hp => hp

theorem extends_next (h : History) (r : Request) : h.Extends (h.next r) := by
  cases r with
  | listenerCreate info =>
      refine ⟨rfl, fun id p hl => ?_, fun id p hp => hp⟩
      obtain ⟨l, hm, hl⟩ := hl
      exact ⟨l, List.mem_append_left _ hm, hl⟩
  | listenerUpdate info =>
      simp only [next]
      split
      · exact extends_setDefaultPool h info.id _
      · exact .refl h
  | poolCreate info =>
      have hpool : h.Extends { h with
          pools := h.pools ++ [⟨info.id, info.protocol⟩], taken := info.id :: h.taken } := by
        refine ⟨rfl, fun id p hl => hl, fun id p hp => ?_⟩
        obtain ⟨r, hm, hr⟩ := hp
        exact ⟨r, List.mem_append_left _ hm, hr⟩
      simp only [next]
      split
      · exact hpool.trans (extends_setDefaultPool _ _ _)
      · exact hpool
  | poolDelete info => exact extends_dropDefaultPool h info.id
  | memberUpdate info =>
      simp only [next]
      split
      · exact ⟨rfl, fun _ _ h => h, fun _ _ h => h⟩
      · exact .refl h
  | _ => exact ⟨rfl, fun _ _ h => h, fun _ _ h => h⟩

end Extension

section Uniqueness

/-- No two listeners and no two pools share an id; all ids are Octavia's and in
use. -/
structure Distinct (h : History) : Prop where
  listeners : (h.listeners.map ListenerRecord.id).Nodup
  pools : (h.pools.map PoolRecord.id).Nodup
  listener_uuid : ∀ l ∈ h.listeners, IsUuid l.id
  pool_uuid : ∀ r ∈ h.pools, IsUuid r.id
  listener_taken : ∀ l ∈ h.listeners, l.id ∈ h.taken
  pool_taken : ∀ r ∈ h.pools, r.id ∈ h.taken

theorem distinct_new (lbId : Str) (taken : List Str) : (new lbId taken).Distinct :=
  ⟨List.nodup_nil, List.nodup_nil, nofun, nofun, nofun, nofun⟩

private theorem eq_of_id {α β : Type} {f : α → β} {l : List α} (h : (l.map f).Nodup) {a b : α}
    (ha : a ∈ l) (hb : b ∈ l) (hab : f a = f b) : a = b :=
  List.inj_on_of_nodup_map h ha hb hab

theorem Distinct.protocol_of_listener {h : History} (hd : h.Distinct) {id : Str} {p q : Protocol}
    (hp : h.HasListener id p) (hq : h.HasListener id q) : p = q := by
  obtain ⟨l, hl, rfl, rfl⟩ := hp
  obtain ⟨l', hl', hid, rfl⟩ := hq
  rw [eq_of_id hd.listeners hl' hl hid]

theorem Distinct.protocol_of_pool {h : History} (hd : h.Distinct) {id : Str} {p q : Protocol}
    (hp : h.HasPool id p) (hq : h.HasPool id q) : p = q := by
  obtain ⟨r, hr, rfl, rfl⟩ := hp
  obtain ⟨r', hr', hid, rfl⟩ := hq
  rw [eq_of_id hd.pools hr' hr hid]

/-- The id of a request that creates an object is not in use. -/
def IsFresh (h : History) : Request → Prop
  | .listenerCreate info => IsUuid info.id ∧ info.id ∉ h.taken
  | .poolCreate info => IsUuid info.id ∧ info.id ∉ h.taken
  | .memberCreate info => IsUuid info.id ∧ info.id ∉ h.taken
  | _ => True

private theorem nodup_append_fresh {l : List Str} {id : Str} {taken : List Str} (hl : l.Nodup)
    (ht : ∀ a ∈ l, a ∈ taken) (hid : id ∉ taken) : (l ++ [id]).Nodup := by
  rw [List.nodup_append]
  refine ⟨hl, List.nodup_singleton id, fun a ha b hb hab => ?_⟩
  rw [List.mem_singleton.mp hb] at hab
  exact hid (hab ▸ ht a ha)

private theorem Distinct.of_map {h h' : History} {f : ListenerRecord → ListenerRecord}
    (hd : h.Distinct) (hf : ∀ l, (f l).id = l.id) (hl : h'.listeners = h.listeners.map f)
    (hp : h'.pools = h.pools) (ht : h'.taken = h.taken) : h'.Distinct where
  listeners := by
    rw [hl, List.map_map]
    have : ListenerRecord.id ∘ f = ListenerRecord.id := funext hf
    rw [this]
    exact hd.listeners
  pools := hp ▸ hd.pools
  listener_uuid := by
    intro l hm
    rw [hl] at hm
    obtain ⟨a, ha, rfl⟩ := List.mem_map.mp hm
    rw [hf]
    exact hd.listener_uuid a ha
  pool_uuid := hp ▸ hd.pool_uuid
  listener_taken := by
    intro l hm
    rw [hl] at hm
    obtain ⟨a, ha, rfl⟩ := List.mem_map.mp hm
    rw [hf, ht]
    exact hd.listener_taken a ha
  pool_taken := hp ▸ ht ▸ hd.pool_taken

theorem Distinct.setDefaultPool {h : History} (hd : h.Distinct) (id : Str) (pool : Option Str) :
    (h.setDefaultPool id pool).Distinct :=
  hd.of_map (fun l => by split <;> rfl) rfl rfl rfl

theorem Distinct.next {h : History} (hd : h.Distinct) {r : Request} (hr : h.IsFresh r) :
    (h.next r).Distinct := by
  cases r with
  | listenerCreate info =>
      refine ⟨?_, hd.pools, ?_, hd.pool_uuid, ?_,
        fun r hm => List.mem_cons_of_mem _ (hd.pool_taken r hm)⟩
      · simp only [History.next, List.map_append, List.map_singleton]
        refine nodup_append_fresh hd.listeners (fun a ha => ?_) hr.2
        obtain ⟨l, hl, rfl⟩ := List.mem_map.mp ha
        exact hd.listener_taken l hl
      · intro l hm
        rcases List.mem_append.mp hm with hm | hm
        · exact hd.listener_uuid l hm
        · rw [List.mem_singleton.mp hm]
          exact hr.1
      · intro l hm
        rcases List.mem_append.mp hm with hm | hm
        · exact List.mem_cons_of_mem _ (hd.listener_taken l hm)
        · rw [List.mem_singleton.mp hm]
          exact List.mem_cons_self ..
  | listenerUpdate info =>
      simp only [History.next]
      split
      · exact hd.setDefaultPool info.id _
      · exact hd
  | poolCreate info =>
      have hpool : Distinct { h with
          pools := h.pools ++ [⟨info.id, info.protocol⟩], taken := info.id :: h.taken } := by
        refine ⟨hd.listeners, ?_, hd.listener_uuid, ?_,
          fun l hm => List.mem_cons_of_mem _ (hd.listener_taken l hm), ?_⟩
        · simp only [List.map_append, List.map_singleton]
          refine nodup_append_fresh hd.pools (fun a ha => ?_) hr.2
          obtain ⟨r, hr, rfl⟩ := List.mem_map.mp ha
          exact hd.pool_taken r hr
        · intro r hm
          rcases List.mem_append.mp hm with hm | hm
          · exact hd.pool_uuid r hm
          · rw [List.mem_singleton.mp hm]
            exact hr.1
        · intro r hm
          rcases List.mem_append.mp hm with hm | hm
          · exact List.mem_cons_of_mem _ (hd.pool_taken r hm)
          · rw [List.mem_singleton.mp hm]
            exact List.mem_cons_self ..
      simp only [History.next]
      split
      · exact hpool.setDefaultPool _ _
      · exact hpool
  | poolDelete info => exact hd.of_map (fun l => by split <;> rfl) rfl rfl rfl
  | memberCreate info =>
      exact ⟨hd.listeners, hd.pools, hd.listener_uuid, hd.pool_uuid,
        fun l hm => List.mem_cons_of_mem _ (hd.listener_taken l hm),
        fun r hm => List.mem_cons_of_mem _ (hd.pool_taken r hm)⟩
  | memberUpdate info =>
      simp only [History.next]
      split
      · exact { hd with }
      · exact hd
  | _ => exact hd

end Uniqueness

end History

end OvnOctavia

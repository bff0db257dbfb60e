import OvnOctavia.Keys

/-!
The table of load balancer rows under commands: what an update of one row does
to the table, and the commands that leave the objects of every row alone. Such a
command changes associations, present health checks or the keys that record them;
the protocol, the traffic map and all other keys of a row stay.
-/

namespace OvnOctavia

@[simp] theorem LbOp.uuid_apply (lb : LoadBalancer) (op : LbOp) :
    (LbOp.apply lb op).uuid = lb.uuid := by cases op <;> rfl

theorem LbOp.uuid_foldl_apply (ops : List LbOp) (lb : LoadBalancer) :
    (ops.foldl LbOp.apply lb).uuid = lb.uuid := by
  induction ops generalizing lb with
  | nil => rfl
  | cons op ops ih => rw [List.foldl_cons, ih, LbOp.uuid_apply]

@[simp] theorem LbOp.name_apply (lb : LoadBalancer) (op : LbOp) :
    (LbOp.apply lb op).name = lb.name := by cases op <;> rfl

namespace Nb

/-- Row identifiers are distinct and were handed out before. -/
structure WellFormed (nb : Nb) : Prop where
  nodup : (nb.loadBalancers.map LoadBalancer.uuid).Nodup
  lt_next : ∀ lb ∈ nb.loadBalancers, lb.uuid < nb.nextUuid

@[simp] theorem loadBalancers_updateLb (nb : Nb) (u : Nat) (f : LoadBalancer → LoadBalancer) :
    (nb.updateLb u f).loadBalancers =
      nb.loadBalancers.map fun lb => if lb.uuid = u then f lb else lb := rfl

@[simp] theorem nextUuid_updateLb (nb : Nb) (u : Nat) (f : LoadBalancer → LoadBalancer) :
    (nb.updateLb u f).nextUuid = nb.nextUuid := rfl

theorem lb?_eq_some {nb : Nb} {u : Nat} {lb : LoadBalancer} (h : nb.lb? u = some lb) :
    lb ∈ nb.loadBalancers ∧ lb.uuid = u :=
  ⟨List.mem_of_find?_eq_some h, by simpa using List.find?_some h⟩

theorem WellFormed.lb?_of_mem {nb : Nb} (h : nb.WellFormed) {lb : LoadBalancer}
    (hm : lb ∈ nb.loadBalancers) : nb.lb? lb.uuid = some lb := by
  have hn := h.nodup
  rw [lb?]
  generalize nb.loadBalancers = l at hm hn
  induction l with
  | nil => cases hm
  | cons a l ih =>
      rw [List.map_cons, List.nodup_cons] at hn
      rcases List.mem_cons.mp hm with rfl | hm
      · simp
      · have hne : a.uuid ≠ lb.uuid := fun e => hn.1 (e ▸ List.mem_map_of_mem hm)
        simp [hne, ih hm hn.2]

theorem WellFormed.eq_of_uuid {nb : Nb} (h : nb.WellFormed) {a b : LoadBalancer}
    (ha : a ∈ nb.loadBalancers) (hb : b ∈ nb.loadBalancers) (hab : a.uuid = b.uuid) : a = b := by
  have := h.lb?_of_mem ha
  rw [hab, h.lb?_of_mem hb] at this
  exact (Option.some.inj this).symm

section Update
variable {nb : Nb} {u : Nat} {f : LoadBalancer → LoadBalancer}

theorem WellFormed.updateLb (h : nb.WellFormed) (hf : ∀ lb, (f lb).uuid = lb.uuid) :
    (nb.updateLb u f).WellFormed where
  nodup := by
    have he : ∀ lb : LoadBalancer, (if lb.uuid = u then f lb else lb).uuid = lb.uuid := by
      intro lb; split <;> simp [hf]
    simpa [Function.comp_def, he] using h.nodup
  lt_next := by
    intro lb hm
    obtain ⟨a, ha, rfl⟩ := List.mem_map.mp hm
    have := h.lt_next a ha
    split
    · simpa [hf] using this
    · exact this

theorem lb?_updateLb (hf : ∀ lb, (f lb).uuid = lb.uuid) (v : Nat) :
    (nb.updateLb u f).lb? v = (nb.lb? v).map fun lb => if lb.uuid = u then f lb else lb := by
  rw [lb?, lb?, loadBalancers_updateLb, List.find?_map]
  congr 1
  congr 1
  funext lb
  simp only [Function.comp_apply]
  split <;> simp [hf]

theorem updateLb_updateLb (g : LoadBalancer → LoadBalancer) (hf : ∀ lb, (f lb).uuid = lb.uuid) :
    (nb.updateLb u f).updateLb u g = nb.updateLb u fun lb => g (f lb) := by
  simp only [Nb.updateLb, List.map_map]
  congr 1
  apply List.map_congr_left
  intro lb _
  by_cases h : lb.uuid = u <;> simp [h, hf]

theorem updateLb_congr {g : LoadBalancer → LoadBalancer} (hw : nb.WellFormed)
    {row : LoadBalancer} (hr : nb.lb? u = some row) (h : f row = g row) :
    nb.updateLb u f = nb.updateLb u g := by
  obtain ⟨hm, hu⟩ := lb?_eq_some hr
  simp only [Nb.updateLb]
  congr 1
  apply List.map_congr_left
  intro lb hlb
  split
  · next e =>
      have : lb = row := hw.eq_of_uuid hlb hm (e.trans hu.symm)
      rw [this, h]
  · rfl

end Update

/-- The table with `row` in the place of the row of its identifier. -/
def putLb (nb : Nb) (row : LoadBalancer) : Nb := nb.updateLb row.uuid fun _ => row

theorem putLb_self {nb : Nb} (hw : nb.WellFormed) {row : LoadBalancer}
    (h : nb.lb? row.uuid = some row) : nb.putLb row = nb := by
  obtain ⟨hm, -⟩ := lb?_eq_some h
  have hmap : (nb.loadBalancers.map fun lb => if lb.uuid = row.uuid then row else lb) =
      nb.loadBalancers := by
    conv_rhs => rw [← List.map_id nb.loadBalancers]
    apply List.map_congr_left
    intro lb hlb
    split
    · next e => exact hw.eq_of_uuid hm hlb e.symm
    · rfl
  rw [putLb, Nb.updateLb, hmap]

theorem updateLb_eq_putLb {nb : Nb} (hw : nb.WellFormed) {u : Nat} {row : LoadBalancer}
    (h : nb.lb? u = some row) {f : LoadBalancer → LoadBalancer} (hf : (f row).uuid = row.uuid) :
    nb.updateLb u f = nb.putLb (f row) := by
  rw [putLb, hf, (lb?_eq_some h).2]
  exact updateLb_congr hw h rfl

theorem mem_putLb {nb : Nb} {row row' lb : LoadBalancer}
    (h : nb.lb? row'.uuid = some row) :
    lb ∈ (nb.putLb row').loadBalancers ↔
      lb = row' ∨ lb ∈ nb.loadBalancers ∧ lb.uuid ≠ row'.uuid := by
  obtain ⟨hm, hu⟩ := lb?_eq_some h
  rw [putLb, loadBalancers_updateLb, List.mem_map]
  constructor
  · rintro ⟨a, ha, rfl⟩
    split
    · exact .inl rfl
    · next hne => exact .inr ⟨ha, hne⟩
  · rintro (rfl | ⟨ha, hne⟩)
    · exact ⟨row, hm, if_pos hu⟩
    · exact ⟨lb, ha, if_neg hne⟩

theorem lb?_putLb {nb : Nb} {row : LoadBalancer} (row' : LoadBalancer)
    (h : nb.lb? row'.uuid = some row) :
    (nb.putLb row').lb? row'.uuid = some row' := by
  obtain ⟨-, hu⟩ := lb?_eq_some h
  rw [lb?] at h
  rw [putLb, lb?, loadBalancers_updateLb, List.find?_map]
  have hp : ((fun lb : LoadBalancer => decide (lb.uuid = row'.uuid)) ∘
      fun lb => if lb.uuid = row'.uuid then row' else lb) =
        fun lb => decide (lb.uuid = row'.uuid) := by
    funext lb
    simp only [Function.comp_apply]
    split
    · next e => simp [e]
    · rfl
  rw [hp, h, Option.map_some, if_pos hu]

theorem lb?_putLb_of_ne (nb : Nb) {row' : LoadBalancer} {u : Nat} (h : u ≠ row'.uuid) :
    (nb.putLb row').lb? u = nb.lb? u := by
  rw [putLb, lb?, lb?, loadBalancers_updateLb, List.find?_map]
  have hp : ((fun lb : LoadBalancer => decide (lb.uuid = u)) ∘
      fun lb => if lb.uuid = row'.uuid then row' else lb) =
        fun lb => decide (lb.uuid = u) := by
    funext lb
    simp only [Function.comp_apply]
    split
    · next e => simp [e]
    · rfl
  rw [hp]
  cases hf : nb.loadBalancers.find? fun lb => decide (lb.uuid = u) with
  | none => rfl
  | some lb =>
      have hu : lb.uuid = u := by simpa using List.find?_some hf
      rw [Option.map_some, if_neg (hu ▸ h)]

theorem putLb_putLb {nb : Nb} {row row' : LoadBalancer} (h : row.uuid = row'.uuid) :
    (nb.putLb row).putLb row' = nb.putLb row' := by
  simp only [putLb, h, Nb.updateLb, List.map_map]
  congr 1
  apply List.map_congr_left
  intro lb _
  simp only [Function.comp_apply]
  split
  · simp
  · rfl

theorem WellFormed.putLb {nb : Nb} (hw : nb.WellFormed) (row : LoadBalancer) :
    (nb.putLb row).WellFormed := by
  have hu : (nb.putLb row).loadBalancers.map LoadBalancer.uuid =
      nb.loadBalancers.map LoadBalancer.uuid := by
    rw [Nb.putLb, loadBalancers_updateLb, List.map_map]
    apply List.map_congr_left
    intro lb _
    simp only [Function.comp_apply]
    split
    · next e => exact e.symm
    · rfl
  refine ⟨hu ▸ hw.nodup, fun lb hm => ?_⟩
  have : lb.uuid ∈ nb.loadBalancers.map LoadBalancer.uuid := hu ▸ List.mem_map_of_mem hm
  obtain ⟨a, ha, he⟩ := List.mem_map.mp this
  exact he ▸ hw.lt_next a ha

@[simp] theorem loadBalancers_deleteLb (nb : Nb) (u : Nat) :
    (nb.deleteLb u).loadBalancers = nb.loadBalancers.filter (·.uuid ≠ u) := rfl

theorem deleteLb_putLb (nb : Nb) (row : LoadBalancer) :
    (nb.putLb row).deleteLb row.uuid = nb.deleteLb row.uuid := by
  have hf : (nb.putLb row).loadBalancers.filter (·.uuid ≠ row.uuid) =
      nb.loadBalancers.filter (·.uuid ≠ row.uuid) := by
    rw [putLb, loadBalancers_updateLb]
    induction nb.loadBalancers with
    | nil => rfl
    | cons lb lbs ih =>
        by_cases hu : lb.uuid = row.uuid
        · simpa [hu] using ih
        · simpa [hu] using ih
  simp only [deleteLb, collectHealthChecks, hf]
  rfl

theorem WellFormed.deleteLb {nb : Nb} (hw : nb.WellFormed) (u : Nat) :
    (nb.deleteLb u).WellFormed where
  nodup := hw.nodup.sublist (List.Sublist.map _ List.filter_sublist)
  lt_next := fun lb hm => hw.lt_next lb (List.mem_of_mem_filter hm)

theorem WellFormed.createLb {nb : Nb} (hw : nb.WellFormed) (name : Str)
    (protocol : Option Protocol) (externalIds : Dict Str Str) (fields : List Str) :
    (nb.createLb name protocol externalIds fields).WellFormed where
  nodup := by
    rw [Nb.createLb, List.map_append, List.map_singleton, List.nodup_append]
    refine ⟨hw.nodup, List.nodup_singleton _, fun u hu v hv => ?_⟩
    obtain ⟨lb, hlb, rfl⟩ := List.mem_map.mp hu
    rw [List.mem_singleton.mp hv]
    exact Nat.ne_of_lt (hw.lt_next lb hlb)
  lt_next := by
    intro lb hm
    rcases List.mem_append.mp hm with hm | hm
    · exact Nat.lt_succ_of_lt (hw.lt_next lb hm)
    · rw [List.mem_singleton.mp hm]
      exact Nat.lt_succ_self _

section Transactions
variable {nb : Nb} {u : Nat} {row : LoadBalancer}

theorem apply_lbUpdate (h : nb.lb? u = some row) (op : LbOp) :
    Nb.apply (.lbUpdate u op) nb = .ok (nb.updateLb u (LbOp.apply · op)) := by
  simp only [Nb.apply, h]

/-- A transaction of updates of one row. -/
theorem transact_lbUpdates (h : nb.lb? u = some row) (ops : List LbOp) :
    Prog.transact Nb.apply (ops.map (.lbUpdate u)) nb =
      .ok (nb.updateLb u fun lb => ops.foldl LbOp.apply lb) := by
  induction ops generalizing nb row with
  | nil =>
      simp only [List.map_nil, Prog.transact_nil, List.foldl_nil, Nb.updateLb, ite_self]
      simp
  | cons op ops ih =>
      have h' : (nb.updateLb u (LbOp.apply · op)).lb? u =
          some (if row.uuid = u then LbOp.apply row op else row) := by
        rw [lb?_updateLb (fun lb => LbOp.uuid_apply lb op), h]; rfl
      rw [List.map_cons, Prog.transact_cons, apply_lbUpdate h]
      change Prog.transact Nb.apply (ops.map (.lbUpdate u)) _ = _
      rw [ih h', updateLb_updateLb _ (fun lb => LbOp.uuid_apply lb op)]
      rfl

/-- A transaction of updates of one row, as the row it leaves. -/
theorem transact_row (hw : nb.WellFormed) (h : nb.lb? u = some row) {cs : List Command}
    (ops : List LbOp) (hcs : cs = ops.map (.lbUpdate u)) :
    Prog.transact Nb.apply cs nb = .ok (nb.putLb (ops.foldl LbOp.apply row)) := by
  rw [hcs, transact_lbUpdates h, updateLb_eq_putLb hw h (LbOp.uuid_foldl_apply ops row)]

theorem lbsNamed_putLb (hw : nb.WellFormed) (row' : LoadBalancer)
    (h : nb.lb? row'.uuid = some row) (hn : row'.name = row.name) (name : Str) :
    (nb.putLb row').lbsNamed name =
      (nb.lbsNamed name).map fun lb => if lb.uuid = row'.uuid then row' else lb := by
  obtain ⟨hm, hu⟩ := lb?_eq_some h
  rw [lbsNamed, lbsNamed, putLb, loadBalancers_updateLb, List.filter_map]
  congr 1
  apply List.filter_congr
  intro lb hlb
  simp only [Function.comp_apply]
  split
  · next e =>
      have : lb = row := hw.eq_of_uuid hlb hm (e.trans hu.symm)
      rw [this, hn]
  · rfl

theorem mem_lbsNamed {name : Str} : row ∈ nb.lbsNamed name ↔
    row ∈ nb.loadBalancers ∧ row.name = name := by
  simp [lbsNamed]

end Transactions

end Nb

section Peripheral

/-- The keys that record associations and health monitors. -/
def peripheralKeys : List Str := [lbExtIdsLsRefsKey, lbExtIdsLrRefKey, lbExtIdsHmsKey]

/-- The same keys, in the same places and with the same values, but for the
peripheral ones. -/
structure SameKeys (e e' : Dict Str Str) : Prop where
  keys : e'.keys.filter (· ∉ peripheralKeys) = e.keys.filter (· ∉ peripheralKeys)
  get? : ∀ k, k ∉ peripheralKeys → e'.get? k = e.get? k

theorem SameKeys.refl (e : Dict Str Str) : SameKeys e e := ⟨rfl, fun _ _ => rfl⟩

theorem SameKeys.trans {a b c : Dict Str Str} (h : SameKeys a b) (h' : SameKeys b c) :
    SameKeys a c :=
  ⟨h'.keys.trans h.keys, fun k hk => (h'.get? k hk).trans (h.get? k hk)⟩

theorem SameKeys.set (e : Dict Str Str) {k : Str} (v : Str) (hk : k ∈ peripheralKeys) :
    SameKeys e (e.set k v) where
  keys := by
    rw [Dict.keys_set]
    split
    · rfl
    · simp [hk]
  get? := fun j hj => Dict.get?_set_of_ne e v (fun h => hj (h ▸ hk))

theorem SameKeys.erase (e : Dict Str Str) {k : Str} (hk : k ∈ peripheralKeys) :
    SameKeys e (e.erase k) where
  keys := by
    rw [Dict.keys_erase, List.filter_filter]
    apply List.filter_congr
    intro j _
    by_cases h : j ∈ peripheralKeys
    · simp [h]
    · have hne : j ≠ k := fun e => h (e ▸ hk)
      simp [h, hne]
  get? := fun j hj => Dict.get?_erase_of_ne e (fun h => hj (h ▸ hk))

structure LoadBalancer.SameObjects (lb lb' : LoadBalancer) : Prop where
  uuid : lb'.uuid = lb.uuid
  name : lb'.name = lb.name
  protocol : lb'.protocol = lb.protocol
  vips : lb'.vips = lb.vips
  externalIds : SameKeys lb.externalIds lb'.externalIds
  unmonitored : lb.healthCheck = [] → lb'.healthCheck = []

theorem LoadBalancer.SameObjects.refl (lb : LoadBalancer) : lb.SameObjects lb :=
  ⟨rfl, rfl, rfl, rfl, .refl _, id⟩

theorem LoadBalancer.SameObjects.trans {a b c : LoadBalancer} (h : a.SameObjects b)
    (h' : b.SameObjects c) : a.SameObjects c :=
  ⟨h'.uuid.trans h.uuid, h'.name.trans h.name, h'.protocol.trans h.protocol,
    h'.vips.trans h.vips, h.externalIds.trans h'.externalIds, h'.unmonitored ∘ h.unmonitored⟩

/-- The same rows in the same places, but for their peripheral keys. -/
structure Nb.SameObjects (nb nb' : Nb) : Prop where
  rows : List.Forall₂ LoadBalancer.SameObjects nb.loadBalancers nb'.loadBalancers
  next : nb.nextUuid ≤ nb'.nextUuid

private theorem sameRows_refl (rows : List LoadBalancer) :
    List.Forall₂ LoadBalancer.SameObjects rows rows :=
  List.forall₂_same.mpr fun lb _ => .refl lb

theorem Nb.SameObjects.refl (nb : Nb) : nb.SameObjects nb :=
  ⟨sameRows_refl _, Nat.le_refl _⟩

private theorem sameRows_trans {rows₁ rows₂ rows₃ : List LoadBalancer}
    (h : List.Forall₂ LoadBalancer.SameObjects rows₁ rows₂)
    (h' : List.Forall₂ LoadBalancer.SameObjects rows₂ rows₃) :
    List.Forall₂ LoadBalancer.SameObjects rows₁ rows₃ := by
  rw [List.forall₂_iff_get] at h h' ⊢
  refine ⟨h.1.trans h'.1, fun i h₁ h₃ => ?_⟩
  have h₂ : i < rows₂.length := h.1 ▸ h₁
  exact (h.2 i h₁ h₂).trans (h'.2 i h₂ h₃)

theorem Nb.SameObjects.trans {a b c : Nb} (h : a.SameObjects b) (h' : b.SameObjects c) :
    a.SameObjects c :=
  ⟨sameRows_trans h.rows h'.rows, h.next.trans h'.next⟩

theorem Nb.SameObjects.of_rows {nb nb' : Nb} (h : nb'.loadBalancers = nb.loadBalancers)
    (hn : nb.nextUuid ≤ nb'.nextUuid) : nb.SameObjects nb' :=
  ⟨h ▸ sameRows_refl _, hn⟩

theorem Nb.SameObjects.updateLb (nb : Nb) (u : Nat) {f : LoadBalancer → LoadBalancer}
    (h : ∀ lb, LoadBalancer.SameObjects lb (f lb)) : nb.SameObjects (nb.updateLb u f) := by
  refine ⟨?_, Nat.le_refl _⟩
  rw [Nb.loadBalancers_updateLb, List.forall₂_map_right_iff]
  rw [List.forall₂_same]
  intro lb _
  split
  · exact h lb
  · exact .refl lb

theorem Nb.SameObjects.lbsNamed {nb nb' : Nb} (h : nb.SameObjects nb') (name : Str) :
    List.Forall₂ LoadBalancer.SameObjects (nb.lbsNamed name) (nb'.lbsNamed name) := by
  refine List.rel_filter (fun lb lb' hlb => ?_) h.rows
  simp [hlb.name]

theorem Nb.SameObjects.exists_of_mem {nb nb' : Nb} (h : nb.SameObjects nb') {lb' : LoadBalancer}
    (hm : lb' ∈ nb'.loadBalancers) : ∃ lb ∈ nb.loadBalancers, lb.SameObjects lb' := by
  have hrows := h.rows
  generalize nb.loadBalancers = rows at hrows
  generalize nb'.loadBalancers = rows' at hrows hm
  induction hrows with
  | nil => cases hm
  | @cons lb lb' _ _ hlb _ ih =>
      rcases List.mem_cons.mp hm with rfl | hm
      · exact ⟨lb, List.mem_cons_self .., hlb⟩
      · obtain ⟨a, ha, hs⟩ := ih hm
        exact ⟨a, List.mem_cons_of_mem _ ha, hs⟩

theorem Nb.SameObjects.lb? {nb s : Nb} (h : nb.SameObjects s) {u : Nat} {row : LoadBalancer}
    (hrow : nb.lb? u = some row) : ∃ row', s.lb? u = some row' ∧ row.SameObjects row' := by
  have hrows := h.rows
  unfold Nb.lb? at hrow ⊢
  generalize nb.loadBalancers = rows at hrows hrow
  generalize s.loadBalancers = rows' at hrows
  induction hrows with
  | nil => cases hrow
  | @cons lb lb' _ _ hlb _ ih =>
      rw [List.find?_cons] at hrow ⊢
      rw [hlb.uuid]
      cases hu : decide (lb.uuid = u) with
      | true =>
          rw [hu] at hrow
          cases hrow
          exact ⟨lb', rfl, hlb⟩
      | false =>
          rw [hu] at hrow
          exact ih hrow

theorem Nb.SameObjects.exists_of_mem_named {nb nb' : Nb} (h : nb.SameObjects nb') {name : Str}
    {lb' : LoadBalancer} (hm : lb' ∈ nb'.lbsNamed name) :
    ∃ lb ∈ nb.lbsNamed name, lb.SameObjects lb' := by
  obtain ⟨hm, hn⟩ := Nb.mem_lbsNamed.mp hm
  obtain ⟨lb, hlb, hs⟩ := h.exists_of_mem hm
  exact ⟨lb, Nb.mem_lbsNamed.mpr ⟨hlb, hs.name.symm.trans hn⟩, hs⟩

def LbOp.IsPeripheral : LbOp → Prop
  | setExternalIds kv => ∃ k ∈ peripheralKeys, ∃ v, kv = .single k v
  | removeExternalId k => k ∈ peripheralKeys
  | setProtocol _ | clearVips | setVips _ | addHealthCheck _ => False
  | _ => True

/-- The commands that leave the objects of every row alone. -/
def Command.IsPeripheral : Command → Prop
  | lbCreate .. | lbDel _ | hcCreate .. => False
  | lbUpdate _ op => op.IsPeripheral
  | _ => True

/-- The command works on the row `u` of the load balancers, or on no such row and
on no health check. -/
def Command.Targets (u : Nat) : Command → Prop
  | lbCreate .. | hcUpdate .. | hcDestroy _ => False
  | lbUpdate v _ | lbDel v | hcCreate v _ _ _ | lsLbAdd _ v | lsLbDel _ v _ | lrLbAdd _ v
  | lrLbDel _ v _ => v = u
  | _ => True

/-- The keys that record the switches and the router of a row. -/
def associationKeys : List Str := [lbExtIdsLsRefsKey, lbExtIdsLrRefKey]

/-- The commands that associate the row `u` with switches and routers. -/
def Command.Associates (u : Nat) : Command → Prop
  | lbUpdate v (.setExternalIds kv) => v = u ∧ ∃ k ∈ associationKeys, ∃ x, kv = .single k x
  | lbUpdate v (.removeExternalId k) => v = u ∧ k ∈ associationKeys
  | lsLbAdd _ v | lsLbDel _ v _ | lrLbAdd _ v | lrLbDel _ v _ => v = u
  | _ => False

theorem peripheral_of_association {k : Str} (h : k ∈ associationKeys) : k ∈ peripheralKeys := by
  simp only [associationKeys, List.mem_cons, List.not_mem_nil, or_false] at h
  rcases h with rfl | rfl
  · exact by decide
  · exact by decide

theorem Command.Associates.isPeripheral {u : Nat} {c : Command} (h : c.Associates u) :
    c.IsPeripheral ∧ c.Targets u := by
  cases c with
  | lbUpdate v op =>
      cases op with
      | setExternalIds kv =>
          obtain ⟨hv, k, hk, x, rfl⟩ := h
          exact ⟨⟨k, peripheral_of_association hk, x, rfl⟩, hv⟩
      | removeExternalId k => exact ⟨peripheral_of_association h.2, h.1⟩
      | _ => exact h.elim
  | lsLbAdd | lsLbDel | lrLbAdd | lrLbDel => exact ⟨trivial, h⟩
  | _ => exact h.elim

theorem LbOp.IsPeripheral.sameObjects {op : LbOp} (h : op.IsPeripheral) (lb : LoadBalancer) :
    lb.SameObjects (LbOp.apply lb op) := by
  cases op with
  | setExternalIds kv =>
      obtain ⟨k, hk, v, rfl⟩ := h
      exact ⟨rfl, rfl, rfl, rfl, SameKeys.set lb.externalIds v hk, id⟩
  | removeExternalId k => exact ⟨rfl, rfl, rfl, rfl, SameKeys.erase lb.externalIds h, id⟩
  | setProtocol _ | clearVips | setVips _ | addHealthCheck _ => exact h.elim
  | removeHealthCheck hc =>
      refine ⟨rfl, rfl, rfl, rfl, .refl _, fun hn => ?_⟩
      simp only [apply, hn, List.filter_nil]
  | clearHealthCheck => exact ⟨rfl, rfl, rfl, rfl, .refl _, fun _ => rfl⟩
  | _ => exact ⟨rfl, rfl, rfl, rfl, .refl _, id⟩

theorem Command.IsPeripheral.sameObjects {c : Command} (h : c.IsPeripheral) {nb nb' : Nb}
    (ha : Nb.apply c nb = .ok nb') : nb.SameObjects nb' := by
  cases c with
  | lbCreate | lbDel | hcCreate => exact h.elim
  | lbUpdate u op =>
      simp only [Nb.apply] at ha
      split at ha <;> cases ha
      exact .updateLb nb u fun lb => LbOp.IsPeripheral.sameObjects h lb
  | portDelete id => cases ha; exact .of_rows rfl (Nat.le_refl _)
  | hcUpdate | hcDestroy | natClearExternalMac | natClearLogicalPort =>
      simp only [Nb.apply] at ha
      split at ha <;> cases ha
      exact .of_rows rfl (Nat.le_refl _)
  | lsLbAdd | lrLbAdd =>
      simp only [Nb.apply] at ha
      split at ha <;> cases ha
      exact .of_rows rfl (Nat.le_refl _)
  | lsLbDel | lrLbDel =>
      simp only [Nb.apply] at ha
      split at ha
      · split at ha
        · cases ha; exact .of_rows rfl (Nat.le_refl _)
        · cases ha
      · cases ha

/-- A program of peripheral commands leaves the objects of every row alone. -/
theorem sameObjects_run {α : Type} {p : Nbctl α} (hp : p.Uses Command.IsPeripheral) (nb : Nb) :
    nb.SameObjects (p.run Nb.apply nb).2 :=
  hp.run_keeps (I := nb.SameObjects) (fun _ _ _ hc hs ha => hs.trans (hc.sameObjects ha))
    (.refl nb)

theorem Nb.SameObjects.wellFormed {nb nb' : Nb} (h : nb.SameObjects nb') (hw : nb.WellFormed) :
    nb'.WellFormed := by
  have hu : nb'.loadBalancers.map LoadBalancer.uuid = nb.loadBalancers.map LoadBalancer.uuid := by
    have := h.rows
    generalize nb.loadBalancers = l at this
    generalize nb'.loadBalancers = l' at this
    induction this with
    | nil => rfl
    | cons hab _ ih => rw [List.map_cons, List.map_cons, ih, hab.uuid]
  refine ⟨hu ▸ hw.nodup, fun lb hm => ?_⟩
  have : lb.uuid ∈ nb.loadBalancers.map LoadBalancer.uuid := hu ▸ List.mem_map_of_mem hm
  obtain ⟨a, ha, he⟩ := List.mem_map.mp this
  exact he ▸ Nat.lt_of_lt_of_le (hw.lt_next a ha) h.next

end Peripheral

end OvnOctavia

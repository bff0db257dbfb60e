import OvnOctavia.Peripheral
import OvnOctavia.Handler

/-!
What a load balancer owns in the database: its rows, the health checks attached to
them, and the links of switches and routers to them. A command that works on what
one load balancer owns leaves alone what the others own; so does a handler whose
commands all do. With a protocol given, the rows of the other protocols of the same
load balancer count among the others.
-/

namespace OvnOctavia

section Ownership
variable (lbId : Str) (protocol : Option Protocol)

def isOther (row : LoadBalancer) : Bool :=
  decide (row.name ≠ lbId ∨ protocol ≠ none ∧ row.protocol ≠ none ∧ row.protocol ≠ protocol)

variable (nb : Nb)

/-- The rows of the others in `nb`. -/
def Others (row : LoadBalancer) : Prop := row ∈ nb.loadBalancers ∧ isOther lbId protocol row = true

def OwnsRow (u : Nat) : Prop := ∀ row, Others lbId protocol nb row → row.uuid ≠ u

def OwnsCheck (u : Nat) : Prop := ∀ row, Others lbId protocol nb row → u ∉ row.healthCheck

/-- A row that is owned with its health checks, and whose keys satisfy `K`. -/
structure Owned (K : Str → Prop) (row : LoadBalancer) : Prop where
  uuid : OwnsRow lbId protocol nb row.uuid
  checks : ∀ u ∈ row.healthCheck, OwnsCheck lbId protocol nb u
  keys : ∀ k ∈ row.externalIds.keys, K k

/-- The links of a switch or router to the rows of the others. -/
def SameLinks (l l' : List Nat) : Prop :=
  ∀ row, Others lbId protocol nb row → (row.uuid ∈ l' ↔ row.uuid ∈ l)

/-- `s` shows the others as `nb` does. -/
structure Isolated (K : Str → Prop) (s : Nb) : Prop where
  wellFormed : s.WellFormed
  rows : s.loadBalancers.filter (isOther lbId protocol) =
    nb.loadBalancers.filter (isOther lbId protocol)
  owned : ∀ row ∈ s.loadBalancers, isOther lbId protocol row = false → Owned lbId protocol nb K row
  next : ∀ row, Others lbId protocol nb row → ∀ u ∈ row.healthCheck, u < s.nextUuid
  checks : ∀ row, Others lbId protocol nb row → ∀ u ∈ row.healthCheck, s.hc? u = nb.hc? u
  foreign : ∀ row, Others lbId protocol nb row → ∀ hc ∈ s.healthChecks, hc.uuid ∈ row.healthCheck →
    hc ∈ nb.healthChecks
  switches : List.Forall₂ (fun ls ls' : LogicalSwitch => ls'.uuid = ls.uuid ∧ ls'.name = ls.name ∧
    SameLinks lbId protocol nb ls.loadBalancer ls'.loadBalancer) nb.switches s.switches
  routers : List.Forall₂ (fun lr lr' : LogicalRouter => lr'.uuid = lr.uuid ∧ lr'.name = lr.name ∧
    SameLinks lbId protocol nb lr.loadBalancer lr'.loadBalancer) nb.routers s.routers

/-- The changes of a row that keep it among the owned ones. -/
def LbOp.Within (K : Str → Prop) : LbOp → Prop
  | setExternalIds kv => ∀ k ∈ kv.keys, K k
  | setProtocol p => p = none ∨ protocol = none ∨ p = protocol
  | addHealthCheck _ => False
  | _ => True

/-- The commands that work on what is owned. -/
def Command.Within (K : Str → Prop) : Command → Prop
  | lbCreate name p externalIds _ =>
      name = lbId ∧ (protocol = none ∨ p = protocol) ∧ ∀ k ∈ externalIds.keys, K k
  | lbUpdate u op => OwnsRow lbId protocol nb u ∧ op.Within protocol K
  | lbDel u | hcCreate u _ _ _ | lsLbAdd _ u | lsLbDel _ u _ | lrLbAdd _ u | lrLbDel _ u _ =>
      OwnsRow lbId protocol nb u
  | hcUpdate u _ | hcDestroy u => OwnsCheck lbId protocol nb u
  | _ => True

end Ownership

section Commands
variable {lbId : Str} {protocol : Option Protocol} {nb s s' : Nb} {K : Str → Prop}

theorem filter_map_of {α : Type} {q : α → Bool} {f : α → α} {l : List α}
    (hq : ∀ x ∈ l, q x = true → f x = x) (hn : ∀ x ∈ l, q x = false → q (f x) = false) :
    (l.map f).filter q = l.filter q := by
  induction l with
  | nil => rfl
  | cons x l ih =>
      have ih := ih (fun y hy => hq y (List.mem_cons_of_mem _ hy))
        fun y hy => hn y (List.mem_cons_of_mem _ hy)
      rw [List.map_cons]
      cases hx : q x with
      | true =>
          rw [hq x (List.mem_cons_self ..) hx, List.filter_cons_of_pos hx,
            List.filter_cons_of_pos hx, ih]
      | false =>
          have hfx := hn x (List.mem_cons_self ..) hx
          rw [List.filter_cons_of_neg (by simp [hfx]), List.filter_cons_of_neg (by simp [hx]), ih]

theorem find?_filter_of {α : Type} {q r : α → Bool} {l : List α}
    (h : ∀ x ∈ l, q x = true → r x = true) : (l.filter r).find? q = l.find? q := by
  rw [List.find?_filter]
  induction l with
  | nil => rfl
  | cons x l ih =>
      have ih := ih fun y hy => h y (List.mem_cons_of_mem _ hy)
      cases hq : q x with
      | true => simp [hq, h x (List.mem_cons_self ..) hq]
      | false => simpa [hq] using ih

theorem find?_map_of {α : Type} {q : α → Bool} {f : α → α} {l : List α}
    (hq : ∀ x ∈ l, q (f x) = q x) (hf : ∀ x ∈ l, q x = true → f x = x) :
    (l.map f).find? q = l.find? q := by
  induction l with
  | nil => rfl
  | cons x l ih =>
      have ih := ih (fun y hy => hq y (List.mem_cons_of_mem _ hy))
        fun y hy => hf y (List.mem_cons_of_mem _ hy)
      have hx := hq x (List.mem_cons_self ..)
      cases h : q x with
      | true => simp [h, hf x (List.mem_cons_self ..) h]
      | false => simpa [hx, h] using ih

namespace Isolated
variable (hs : Isolated lbId protocol nb K s)
include hs

theorem others {row : LoadBalancer} (hm : row ∈ s.loadBalancers)
    (ho : isOther lbId protocol row = true) : Others lbId protocol nb row := by
  have : row ∈ s.loadBalancers.filter (isOther lbId protocol) := List.mem_filter.mpr ⟨hm, ho⟩
  rw [hs.rows] at this
  exact List.mem_filter.mp this

theorem mem_of_others {row : LoadBalancer} (ho : Others lbId protocol nb row) :
    row ∈ s.loadBalancers := by
  have : row ∈ nb.loadBalancers.filter (isOther lbId protocol) := List.mem_filter.mpr ho
  rw [← hs.rows] at this
  exact (List.mem_filter.mp this).1

/-- A row with an owned identifier is not one of the others. -/
theorem not_other {u : Nat} (hu : OwnsRow lbId protocol nb u) {row : LoadBalancer}
    (hm : row ∈ s.loadBalancers) (he : row.uuid = u) : isOther lbId protocol row = false := by
  cases ho : isOther lbId protocol row with
  | false => rfl
  | true => exact absurd he (hu row (hs.others hm ho))

end Isolated

theorem isOther_congr {row row' : LoadBalancer} (hn : row'.name = row.name)
    (hp : row'.protocol = row.protocol) :
    isOther lbId protocol row' = isOther lbId protocol row := by
  rw [isOther, isOther, hn, hp]

theorem LbOp.Within.not_other {op : LbOp} (ho : op.Within protocol K) {row : LoadBalancer}
    (hr : isOther lbId protocol row = false) :
    isOther lbId protocol (LbOp.apply row op) = false := by
  cases op with
  | setProtocol p =>
      rw [isOther, decide_eq_false_iff_not, not_or, not_not] at hr ⊢
      refine ⟨hr.1, ?_⟩
      rintro ⟨hprotocol, hp, hne⟩
      rcases ho with ho | ho | ho
      · exact hp ho
      · exact hprotocol ho
      · exact hne ho
  | _ => exact (isOther_congr rfl rfl).trans hr

theorem LbOp.Within.owned {op : LbOp} (ho : op.Within protocol K) {row : LoadBalancer}
    (hr : Owned lbId protocol nb K row) : Owned lbId protocol nb K (LbOp.apply row op) := by
  cases op with
  | setExternalIds kv =>
      refine ⟨hr.uuid, hr.checks, fun k hk => ?_⟩
      simp only [apply, Dict.keys_update, List.mem_append, List.mem_filter] at hk
      rcases hk with hk | hk
      · exact hr.keys k hk
      · exact ho k hk.1
  | removeExternalId k =>
      exact ⟨hr.uuid, hr.checks, fun j hj => hr.keys j ((Dict.mem_keys_erase _ _ _).mp hj).1⟩
  | addHealthCheck _ => exact ho.elim
  | removeHealthCheck hc =>
      exact ⟨hr.uuid, fun u hu => hr.checks u (List.mem_of_mem_filter hu), hr.keys⟩
  | clearHealthCheck => exact ⟨hr.uuid, fun _ hu => absurd hu List.not_mem_nil, hr.keys⟩
  | _ => exact ⟨hr.uuid, hr.checks, hr.keys⟩

namespace Isolated
variable (hs : Isolated lbId protocol nb K s)
include hs

/-- An update of an owned row that keeps it owned. -/
theorem updateLb {u : Nat} (hu : OwnsRow lbId protocol nb u) {f : LoadBalancer → LoadBalancer}
    (hf : ∀ row, (f row).uuid = row.uuid)
    (hn : ∀ row, isOther lbId protocol row = false → isOther lbId protocol (f row) = false)
    (ho : ∀ row, Owned lbId protocol nb K row → Owned lbId protocol nb K (f row)) :
    Isolated lbId protocol nb K (s.updateLb u f) := by
  have hrow : ∀ row ∈ s.loadBalancers, isOther lbId protocol row = true →
      (if row.uuid = u then f row else row) = row := by
    intro row hm hr
    rw [if_neg (hu row (hs.others hm hr))]
  have hrow' : ∀ row ∈ s.loadBalancers, isOther lbId protocol row = false →
      isOther lbId protocol (if row.uuid = u then f row else row) = false := by
    intro row _ hr
    split
    · exact hn row hr
    · exact hr
  refine ⟨hs.wellFormed.updateLb hf, ?_, fun row hm hr => ?_, hs.next, hs.checks, hs.foreign,
    hs.switches,
    hs.routers⟩
  · rw [Nb.loadBalancers_updateLb, filter_map_of hrow hrow', hs.rows]
  · obtain ⟨old, hold, rfl⟩ := List.mem_map.mp hm
    cases ho' : isOther lbId protocol old with
    | true =>
        rw [hrow old hold ho'] at hr
        rw [hr] at ho'
        cases ho'
    | false =>
        have hown := hs.owned old hold ho'
        split
        · exact ho old hown
        · exact hown

/-- A new health check is attached to an owned row. -/
theorem createCheck {u : Nat} (hu : OwnsRow lbId protocol nb u) (vip : Str)
    (options externalIds : Dict Str Str) :
    Isolated lbId protocol nb K { s.updateLb u (LbOp.apply · (.addHealthCheck s.nextUuid)) with
      healthChecks := s.healthChecks ++ [{ uuid := s.nextUuid, vip, options, externalIds }]
      nextUuid := s.nextUuid + 1 } := by
  have hnew : OwnsCheck lbId protocol nb s.nextUuid :=
    fun row ho hm => Nat.lt_irrefl _ (hs.next row ho _ hm)
  have hup := hs.updateLb hu (f := (LbOp.apply · (.addHealthCheck s.nextUuid))) (fun _ => rfl)
    (fun row hr => (isOther_congr rfl rfl).trans hr) fun row hr => by
      refine ⟨hr.uuid, fun v hv => ?_, hr.keys⟩
      simp only [LbOp.apply] at hv
      split at hv
      · exact hr.checks v hv
      · rcases List.mem_append.mp hv with hv | hv
        · exact hr.checks v hv
        · rw [List.mem_singleton.mp hv]
          exact hnew
  refine ⟨⟨hup.wellFormed.nodup, fun lb hm => Nat.lt_succ_of_lt (hup.wellFormed.lt_next lb hm)⟩,
    hup.rows, hup.owned, fun row ho v hv => Nat.lt_succ_of_lt (hs.next row ho v hv),
    fun row ho v hv => ?_, fun row ho x hx hv => ?_, hs.switches, hs.routers⟩
  · rw [← hs.checks row ho v hv, Nb.hc?, Nb.hc?, List.find?_append]
    have hne : s.nextUuid ≠ v := fun he => hnew row ho (he ▸ hv)
    simp [hne]
  · rcases List.mem_append.mp hx with hx | hx
    · exact hs.foreign row ho x hx hv
    · rw [List.mem_singleton.mp hx] at hv
      exact absurd hv (hnew row ho)

/-- Links to an owned row change no link to a row of the others. -/
theorem updateSwitch {u : Nat} (hu : OwnsRow lbId protocol nb u) (v : Nat)
    {f : LogicalSwitch → LogicalSwitch} (hf : ∀ ls, (f ls).uuid = ls.uuid ∧ (f ls).name = ls.name)
    (hl : ∀ ls w, w ≠ u → (w ∈ (f ls).loadBalancer ↔ w ∈ ls.loadBalancer)) :
    Isolated lbId protocol nb K (s.updateSwitch v f) := by
  refine ⟨⟨hs.wellFormed.nodup, hs.wellFormed.lt_next⟩, hs.rows, hs.owned, hs.next, hs.checks,
    hs.foreign,
    ?_, hs.routers⟩
  refine List.forall₂_map_right_iff.mpr (hs.switches.imp fun ls ls' h => ?_)
  split
  · refine ⟨(hf ls').1.trans h.1, (hf ls').2.trans h.2.1, fun row ho => ?_⟩
    exact (hl ls' row.uuid (hu row ho)).trans (h.2.2 row ho)
  · exact h

theorem updateRouter {u : Nat} (hu : OwnsRow lbId protocol nb u) (v : Nat)
    {f : LogicalRouter → LogicalRouter} (hf : ∀ lr, (f lr).uuid = lr.uuid ∧ (f lr).name = lr.name)
    (hl : ∀ lr w, w ≠ u → (w ∈ (f lr).loadBalancer ↔ w ∈ lr.loadBalancer)) :
    Isolated lbId protocol nb K (s.updateRouter v f) := by
  refine ⟨⟨hs.wellFormed.nodup, hs.wellFormed.lt_next⟩, hs.rows, hs.owned, hs.next, hs.checks,
    hs.foreign, hs.switches, ?_⟩
  refine List.forall₂_map_right_iff.mpr (hs.routers.imp fun lr lr' h => ?_)
  split
  · refine ⟨(hf lr').1.trans h.1, (hf lr').2.trans h.2.1, fun row ho => ?_⟩
    exact (hl lr' row.uuid (hu row ho)).trans (h.2.2 row ho)
  · exact h

theorem deleteLb {u : Nat} (hu : OwnsRow lbId protocol nb u) :
    Isolated lbId protocol nb K (s.deleteLb u) := by
  have hl : ∀ l : List Nat, SameLinks lbId protocol nb l (l.filter (· ≠ u)) := by
    intro l row ho
    simp [hu row ho]
  refine ⟨hs.wellFormed.deleteLb u, ?_, fun row hm hr => ?_, hs.next, fun row ho v hv => ?_,
    fun row ho x hx => hs.foreign row ho x (List.mem_of_mem_filter hx), ?_, ?_⟩
  · rw [Nb.loadBalancers_deleteLb, List.filter_filter, ← hs.rows]
    refine List.filter_congr fun row hm => ?_
    cases hr : isOther lbId protocol row with
    | true => simpa using hu row (hs.others hm hr)
    | false => rfl
  · rw [Nb.loadBalancers_deleteLb] at hm
    exact hs.owned row (List.mem_of_mem_filter hm) hr
  · -- the row that refers to the health check stays
    have hrow : row ∈ s.loadBalancers.filter (·.uuid ≠ u) :=
      List.mem_filter.mpr ⟨hs.mem_of_others ho, by simpa using hu row ho⟩
    rw [← hs.checks row ho v hv]
    refine find?_filter_of fun hc _ he => List.any_eq_true.mpr ⟨row, hrow, ?_⟩
    rw [of_decide_eq_true he]
    exact List.contains_iff_mem.mpr hv
  · refine List.forall₂_map_right_iff.mpr (hs.switches.imp fun ls ls' h => ?_)
    exact ⟨h.1, h.2.1, fun row ho => ((hl ls'.loadBalancer row ho)).trans (h.2.2 row ho)⟩
  · refine List.forall₂_map_right_iff.mpr (hs.routers.imp fun lr lr' h => ?_)
    exact ⟨h.1, h.2.1, fun row ho => ((hl lr'.loadBalancer row ho)).trans (h.2.2 row ho)⟩

theorem createLb {p : Option Protocol} (hp : protocol = none ∨ p = protocol)
    {externalIds : Dict Str Str} (hk : ∀ k ∈ externalIds.keys, K k) (fields : List Str) :
    Isolated lbId protocol nb K (s.createLb lbId p externalIds fields) := by
  have hnew : ∀ row : LoadBalancer, row.name = lbId → row.protocol = p →
      isOther lbId protocol row = false := by
    intro row hn hrp
    rw [isOther, hn, hrp, decide_eq_false_iff_not, not_or, not_not]
    refine ⟨rfl, ?_⟩
    rintro ⟨hprotocol, -, hne⟩
    exact hp.elim hprotocol hne
  refine ⟨hs.wellFormed.createLb .., ?_, fun row hm hr => ?_,
    fun row ho v hv => Nat.lt_succ_of_lt (hs.next row ho v hv), hs.checks, hs.foreign, hs.switches,
    hs.routers⟩
  · rw [← hs.rows, Nb.createLb, List.filter_append]
    have hnil : ∀ row : LoadBalancer, row.name = lbId → row.protocol = p →
        [row].filter (isOther lbId protocol) = [] := by
      intro row hn hrp
      rw [List.filter_cons_of_neg (by simp [hnew row hn hrp]), List.filter_nil]
    rw [hnil _ rfl rfl, List.append_nil]
  · rcases List.mem_append.mp hm with hm | hm
    · exact hs.owned row hm hr
    · rw [List.mem_singleton.mp hm]
      refine ⟨fun other ho he => ?_, fun _ hu => absurd hu List.not_mem_nil, hk⟩
      exact Nat.lt_irrefl _ (he ▸ hs.wellFormed.lt_next other (hs.mem_of_others ho))

end Isolated

/-- A command on what is owned leaves the others alone. -/
theorem Command.Within.isolated {c : Command} (hc : c.Within lbId protocol nb K)
    (hs : Isolated lbId protocol nb K s) (ha : Nb.apply c s = .ok s') :
    Isolated lbId protocol nb K s' := by
  have hadd : ∀ (l : List Nat) (u w : Nat), w ≠ u →
      (w ∈ (if u ∈ l then l else l ++ [u]) ↔ w ∈ l) := by
    intro l u w hw
    split
    · rfl
    · simp [hw]
  have hdel : ∀ (l : List Nat) (u w : Nat), w ≠ u → (w ∈ l.filter (· ≠ u) ↔ w ∈ l) := by
    intro l u w hw
    simp [hw]
  have hchecks : ∀ {l : List HealthCheck}, (∀ row, Others lbId protocol nb row →
      ∀ u ∈ row.healthCheck, l.find? (·.uuid = u) = s.hc? u) →
      (∀ row, Others lbId protocol nb row → ∀ hc ∈ l, hc.uuid ∈ row.healthCheck →
        hc ∈ s.healthChecks) →
      Isolated lbId protocol nb K { s with healthChecks := l } := fun h hf =>
    ⟨⟨hs.wellFormed.nodup, hs.wellFormed.lt_next⟩, hs.rows, hs.owned, hs.next,
      fun row ho u hu => (h row ho u hu).trans (hs.checks row ho u hu),
      fun row ho x hx hu => hs.foreign row ho x (hf row ho x hx hu) hu, hs.switches, hs.routers⟩
  cases c with
  | lbCreate name p externalIds fields =>
      obtain ⟨rfl, hp, hk⟩ := hc
      cases ha
      exact hs.createLb hp hk fields
  | lbUpdate u op =>
      simp only [Nb.apply] at ha
      split at ha <;> cases ha
      exact hs.updateLb hc.1 (fun row => LbOp.uuid_apply row op) (fun row hr => hc.2.not_other hr)
        fun row hr => hc.2.owned hr
  | lbDel u =>
      simp only [Nb.apply] at ha
      split at ha <;> cases ha
      exact hs.deleteLb hc
  | hcCreate u vip options externalIds =>
      simp only [Nb.apply] at ha
      split at ha <;> cases ha
      exact hs.createCheck hc vip options externalIds
  | hcUpdate u op =>
      simp only [Nb.apply] at ha
      split at ha <;> cases ha
      have huuid : ∀ x : HealthCheck, (if x.uuid = u then HcOp.apply x op else x).uuid =
        x.uuid := by
        intro x
        split
        · cases op <;> rfl
        · rfl
      refine hchecks (fun row ho v hv => find?_map_of (fun x _ => ?_) fun x _ he => ?_)
        fun row ho x hx hv => ?_
      · rw [huuid]
      · have hne : x.uuid ≠ u := fun h => hc row ho (h ▸ of_decide_eq_true he ▸ hv)
        rw [if_neg hne]
      · obtain ⟨y, hy, rfl⟩ := List.mem_map.mp hx
        rw [huuid] at hv
        have hne : y.uuid ≠ u := fun h => hc row ho (h ▸ hv)
        rwa [if_neg hne]
  | hcDestroy u =>
      simp only [Nb.apply] at ha
      split at ha <;> cases ha
      refine hchecks (fun row ho v hv => find?_filter_of fun x _ he => ?_)
        fun row ho x hx _ => List.mem_of_mem_filter hx
      have hne : x.uuid ≠ u := fun h => hc row ho (h ▸ of_decide_eq_true he ▸ hv)
      simpa using hne
  | lsLbAdd ref u =>
      simp only [Nb.apply] at ha
      split at ha <;> cases ha
      exact hs.updateSwitch hc _ (fun _ => ⟨rfl, rfl⟩) fun ls w hw => hadd ls.loadBalancer u w hw
  | lsLbDel ref u ifExists =>
      simp only [Nb.apply] at ha
      split at ha
      · split at ha
        · cases ha
          exact hs.updateSwitch hc _ (fun _ => ⟨rfl, rfl⟩) fun ls w hw =>
            hdel ls.loadBalancer u w hw
        · cases ha
      · cases ha
  | lrLbAdd r u =>
      simp only [Nb.apply] at ha
      split at ha <;> cases ha
      exact hs.updateRouter hc _ (fun _ => ⟨rfl, rfl⟩) fun lr w hw => hadd lr.loadBalancer u w hw
  | lrLbDel r u ifExists =>
      simp only [Nb.apply] at ha
      split at ha
      · split at ha
        · cases ha
          exact hs.updateRouter hc _ (fun _ => ⟨rfl, rfl⟩) fun lr w hw =>
            hdel lr.loadBalancer u w hw
        · cases ha
      · cases ha
  | natClearExternalMac n | natClearLogicalPort n =>
      simp only [Nb.apply] at ha
      split at ha <;> cases ha
      exact ⟨⟨hs.wellFormed.nodup, hs.wellFormed.lt_next⟩, hs.rows, hs.owned, hs.next, hs.checks,
        hs.foreign, hs.switches, hs.routers⟩
  | portDelete id =>
      cases ha
      exact ⟨⟨hs.wellFormed.nodup, hs.wellFormed.lt_next⟩, hs.rows, hs.owned, hs.next, hs.checks,
        hs.foreign, hs.switches, hs.routers⟩

end Commands

end OvnOctavia

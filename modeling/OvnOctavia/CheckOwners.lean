import OvnOctavia.HealthChecks

/-!
The health checks of all rows together: each is in the table once, one row at most refers
to it, and what a row refers to is there. A row that is written, a health check that is
added to a row and one that is dropped with its row's reference leave them so.
-/

namespace OvnOctavia

variable {nb nb' nb'' : Nb} {row row' : LoadBalancer} {v x : Nat} {us : List Nat}

theorem Nb.lb?_put (h : nb.lb? row'.uuid = some row) (v : Nat) :
    (nb.putLb row').lb? v = if v = row'.uuid then some row' else nb.lb? v := by
  split
  · next hv =>
      rw [hv]
      exact Nb.lb?_putLb row' h
  · next hv => exact Nb.lb?_putLb_of_ne nb hv

/-- The row of the identifier refers to the health check. -/
def Nb.Refers (nb : Nb) (v x : Nat) : Prop := ∃ row, nb.lb? v = some row ∧ x ∈ row.healthCheck

theorem Nb.refers_iff (h : nb.lb? v = some row) : nb.Refers v x ↔ x ∈ row.healthCheck := by
  constructor
  · rintro ⟨row', hrow', hx⟩
    rw [h] at hrow'
    cases hrow'
    exact hx
  · exact fun hx => ⟨row, h, hx⟩

theorem Nb.refers_congr (h : nb'.lb? v = nb.lb? v) : nb'.Refers v x ↔ nb.Refers v x := by
  rw [Nb.Refers, Nb.Refers, h]

theorem Nb.refers_putLb (h : nb.lb? row'.uuid = some row)
    (hchecks : row'.healthCheck = row.healthCheck) :
    (nb.putLb row').Refers v x ↔ nb.Refers v x := by
  by_cases hv : v = row'.uuid
  · subst hv
    rw [Nb.refers_iff (Nb.lb?_putLb row' h), Nb.refers_iff h, hchecks]
  · exact Nb.refers_congr (Nb.lb?_putLb_of_ne nb hv)

theorem Nb.lb?_withCheck (h : nb.lb? row.uuid = some row) (vip : Str)
    (options externalIds : Dict Str Str) (v : Nat) :
    (nb.withCheck row vip options externalIds).lb? v =
      if v = row.uuid then some { row with healthCheck := row.healthCheck ++ [nb.nextUuid] }
      else nb.lb? v := by
  let row' : LoadBalancer := { row with healthCheck := row.healthCheck ++ [nb.nextUuid] }
  have hput : nb.lb? row'.uuid = some row := h
  exact Nb.lb?_put hput v

theorem Nb.refers_withCheck (h : nb.lb? row.uuid = some row) (vip : Str)
    (options externalIds : Dict Str Str) :
    (nb.withCheck row vip options externalIds).Refers v x ↔
      nb.Refers v x ∨ v = row.uuid ∧ x = nb.nextUuid := by
  have hget := Nb.lb?_withCheck h vip options externalIds v
  by_cases hv : v = row.uuid
  · rw [if_pos hv] at hget
    rw [Nb.refers_iff hget, hv, Nb.refers_iff h, List.mem_append, List.mem_singleton]
    exact or_congr Iff.rfl (by simp)
  · rw [if_neg hv] at hget
    rw [Nb.refers_congr hget]
    exact (or_iff_left fun he => hv he.1).symm

/-- The store without some health checks, which are taken out of the row as well. -/
def Nb.dropChecks (nb : Nb) (row : LoadBalancer) (us : List Nat) : Nb :=
  { nb.putLb { row with healthCheck := row.healthCheck.filter (· ∉ us) } with
    healthChecks := nb.healthChecks.filter (·.uuid ∉ us) }

theorem Nb.dropCheck_eq (nb : Nb) (row : LoadBalancer) (x : Nat) :
    nb.dropCheck row x = nb.dropChecks row [x] := by
  simp [Nb.dropCheck, Nb.dropChecks]

theorem Nb.dropChecks_dropCheck (nb : Nb) (row : LoadBalancer) (x : Nat) (us : List Nat) :
    (nb.dropCheck row x).dropChecks { row with healthCheck := row.healthCheck.filter (· ≠ x) } us =
      nb.dropChecks row (x :: us) := by
  have hput : (nb.putLb { row with healthCheck := row.healthCheck.filter (· ≠ x) }).putLb
      { row with healthCheck := (row.healthCheck.filter (· ≠ x)).filter (· ∉ us) } =
        nb.putLb { row with healthCheck := (row.healthCheck.filter (· ≠ x)).filter (· ∉ us) } :=
    Nb.putLb_putLb rfl
  change ({ (nb.putLb { row with healthCheck := row.healthCheck.filter (· ≠ x) }).putLb
      { row with healthCheck := (row.healthCheck.filter (· ≠ x)).filter (· ∉ us) } with
        healthChecks := (nb.healthChecks.filter (·.uuid ≠ x)).filter (·.uuid ∉ us) } : Nb) = _
  rw [hput]
  simp only [Nb.dropChecks, List.filter_filter, List.mem_cons, not_or, Bool.decide_and, ne_eq,
    Bool.and_comm]

theorem Nb.lb?_dropChecks (h : nb.lb? row.uuid = some row) (us : List Nat) (v : Nat) :
    (nb.dropChecks row us).lb? v =
      if v = row.uuid then some { row with healthCheck := row.healthCheck.filter (· ∉ us) }
      else nb.lb? v := by
  let row' : LoadBalancer := { row with healthCheck := row.healthCheck.filter (· ∉ us) }
  have hput : nb.lb? row'.uuid = some row := h
  exact Nb.lb?_put hput v

theorem Nb.refers_dropChecks (h : nb.lb? row.uuid = some row) :
    (nb.dropChecks row us).Refers v x ↔ nb.Refers v x ∧ (v = row.uuid → x ∉ us) := by
  have hget := Nb.lb?_dropChecks h us v
  by_cases hv : v = row.uuid
  · rw [if_pos hv] at hget
    rw [Nb.refers_iff hget, hv, Nb.refers_iff h, List.mem_filter]
    simp
  · rw [if_neg hv] at hget
    rw [Nb.refers_congr hget]
    exact (and_iff_left fun he => absurd he hv).symm

theorem Nb.hc?_dropChecks (h : x ∉ us) : (nb.dropChecks row us).hc? x = nb.hc? x := by
  change (nb.healthChecks.filter (·.uuid ∉ us)).find? (·.uuid = x) = nb.hc? x
  rw [List.find?_filter, Nb.hc?]
  congr 1
  funext hc
  by_cases hx : hc.uuid = x
  · simp [hx, h]
  · simp [hx]

/-- A transaction that takes health checks out of a row and destroys them. -/
theorem Watched.transact_dropChecks_eq (h : Watched nb row) {l : List HealthCheck}
    (hl : ∀ hc ∈ l, ∃ y, nb.hc? hc.uuid = some y) (hn : (l.map HealthCheck.uuid).Nodup) :
    Prog.transact Nb.apply (l.flatMap fun hc =>
        [.lbUpdate row.uuid (.removeHealthCheck hc.uuid), .hcDestroy hc.uuid]) nb =
      .ok (nb.dropChecks row (l.map HealthCheck.uuid)) := by
  induction l generalizing nb row with
  | nil =>
      have hself : nb.dropChecks row [] = nb := by
        simp [Nb.dropChecks, Nb.putLb_self h.wellFormed h.found]
      rw [List.map_nil, hself]
      rfl
  | cons hc l ih =>
      rw [List.map_cons, List.nodup_cons] at hn
      obtain ⟨y, hy⟩ := hl hc (List.mem_cons_self ..)
      have hrest : ∀ z ∈ l, ∃ y, (nb.dropCheck row hc.uuid).hc? z.uuid = some y := by
        intro z hz
        have hne : z.uuid ≠ hc.uuid := fun he => hn.1 (he ▸ List.mem_map_of_mem hz)
        rw [Nb.hc?_dropCheck hne]
        exact hl z (List.mem_cons_of_mem _ hz)
      have hlast := ih (h.dropCheck hc.uuid).1 hrest hn.2
      rw [List.flatMap_cons, Prog.transact_append, h.transact_dropCheck hy, List.map_cons,
        ← Nb.dropChecks_dropCheck]
      exact hlast

/-- What holds of the health checks of all rows. -/
structure Nb.Sound (nb : Nb) : Prop where
  wellFormed : nb.WellFormed
  nodup : ∀ v row, nb.lb? v = some row → row.healthCheck.Nodup
  table : (nb.healthChecks.map HealthCheck.uuid).Nodup
  present : ∀ v x, nb.Refers v x → ∃ hc, nb.hc? x = some hc
  lt_next : ∀ hc ∈ nb.healthChecks, hc.uuid < nb.nextUuid
  owner : ∀ v w x, nb.Refers v x → nb.Refers w x → v = w

namespace Nb.Sound

theorem watched (h : nb.Sound) (hrow : nb.lb? v = some row) : Watched nb row := by
  obtain rfl := (Nb.lb?_eq_some hrow).2
  exact ⟨h.wellFormed, hrow, h.nodup _ _ hrow,
    fun x hx => h.present _ x ((Nb.refers_iff hrow).mpr hx), h.lt_next⟩

theorem hc?_of_mem (h : nb.Sound) {hc : HealthCheck} (hm : hc ∈ nb.healthChecks) :
    nb.hc? hc.uuid = some hc := by
  have hn := h.table
  rw [Nb.hc?]
  generalize nb.healthChecks = l at hm hn
  induction l with
  | nil => cases hm
  | cons a l ih =>
      rw [List.map_cons, List.nodup_cons] at hn
      rcases List.mem_cons.mp hm with rfl | hm
      · simp
      · have hne : a.uuid ≠ hc.uuid := fun he => hn.1 (he ▸ List.mem_map_of_mem hm)
        simp [hne, ih hm hn.2]

theorem refers_lt (h : nb.Sound) (hr : nb.Refers v x) : x < nb.nextUuid := by
  obtain ⟨hc, hhc⟩ := h.present v x hr
  obtain ⟨hm, rfl⟩ := Nb.hc?_eq_some hhc
  exact h.lt_next hc hm

theorem putLb (h : nb.Sound) (hrow : nb.lb? row'.uuid = some row)
    (hchecks : row'.healthCheck = row.healthCheck) : (nb.putLb row').Sound where
  wellFormed := h.wellFormed.putLb row'
  nodup := by
    intro v lb hlb
    rw [Nb.lb?_put hrow] at hlb
    split at hlb
    · cases hlb
      rw [hchecks]
      exact h.nodup _ _ hrow
    · exact h.nodup v lb hlb
  table := h.table
  present := fun v x hr => h.present v x ((Nb.refers_putLb hrow hchecks).mp hr)
  lt_next := h.lt_next
  owner := fun v w x hv hw => h.owner v w x ((Nb.refers_putLb hrow hchecks).mp hv)
    ((Nb.refers_putLb hrow hchecks).mp hw)

theorem withCheck (h : nb.Sound) (hrow : nb.lb? row.uuid = some row) (vip : Str)
    (options externalIds : Dict Str Str) : (nb.withCheck row vip options externalIds).Sound := by
  have hw := h.watched hrow
  have hnew := hw.hc?_withCheck vip options externalIds
  have hrefers : ∀ v x, (nb.withCheck row vip options externalIds).Refers v x ↔
      nb.Refers v x ∨ v = row.uuid ∧ x = nb.nextUuid :=
    fun v x => Nb.refers_withCheck hrow vip options externalIds
  obtain ⟨hnext, -⟩ := hw.withCheck vip options externalIds
  refine ⟨hnext.wellFormed, fun v lb hlb => ?_, ?_, fun v x hr => ?_, hnext.lt_next,
    fun v w x hv hw => ?_⟩
  · rw [Nb.lb?_withCheck hrow] at hlb
    split at hlb
    · cases hlb
      exact hnext.nodup
    · exact h.nodup v lb hlb
  · simp only [Nb.withCheck, List.map_append, List.map_cons, List.map_nil, List.nodup_append]
    refine ⟨h.table, List.nodup_singleton _, fun a ha b hb => ?_⟩
    obtain ⟨hc, hm, rfl⟩ := List.mem_map.mp ha
    rw [List.mem_singleton.mp hb]
    exact Nat.ne_of_lt (h.lt_next hc hm)
  · rw [hnew]
    split
    · exact ⟨_, rfl⟩
    · next hx =>
        rcases (hrefers v x).mp hr with hr | ⟨-, he⟩
        · exact h.present v x hr
        · exact absurd he hx
  · -- the new health check was referred to by no row
    rcases (hrefers v x).mp hv with hv | ⟨rfl, rfl⟩
    · rcases (hrefers w x).mp hw with hw | ⟨-, rfl⟩
      · exact h.owner v w x hv hw
      · exact absurd (h.refers_lt hv) (Nat.lt_irrefl _)
    · rcases (hrefers w nb.nextUuid).mp hw with hw | ⟨rfl, -⟩
      · exact absurd (h.refers_lt hw) (Nat.lt_irrefl _)
      · rfl

theorem dropChecks (h : nb.Sound) (hrow : nb.lb? row.uuid = some row)
    (hown : ∀ v, ∀ x ∈ us, nb.Refers v x → v = row.uuid) : (nb.dropChecks row us).Sound := by
  have hput := h.wellFormed.putLb { row with healthCheck := row.healthCheck.filter (· ∉ us) }
  have hrefers : ∀ v x, (nb.dropChecks row us).Refers v x ↔
      nb.Refers v x ∧ (v = row.uuid → x ∉ us) := fun v x => Nb.refers_dropChecks hrow
  refine ⟨⟨hput.nodup, hput.lt_next⟩, fun v lb hlb => ?_, ?_, fun v x hr => ?_,
    fun hc hm => h.lt_next hc (List.mem_of_mem_filter hm),
    fun v w x hv hw => h.owner v w x ((hrefers v x).mp hv).1 ((hrefers w x).mp hw).1⟩
  · rw [Nb.lb?_dropChecks hrow] at hlb
    split at hlb
    · cases hlb
      exact (h.nodup _ _ hrow).filter _
    · exact h.nodup v lb hlb
  · exact h.table.sublist (List.filter_sublist.map _)
  · obtain ⟨hr, hnot⟩ := (hrefers v x).mp hr
    have hx : x ∉ us := fun hx => hnot (hown v x hx hr) hx
    rw [Nb.hc?_dropChecks hx]
    exact h.present v x hr

theorem deletedPorts (h : nb.Sound) (ids : List Str) :
    ({ nb with deletedPorts := ids } : Nb).Sound :=
  ⟨⟨h.wellFormed.nodup, h.wellFormed.lt_next⟩, h.nodup, h.table, h.present, h.lt_next, h.owner⟩

end Nb.Sound

/-- The health checks of the kind stay in the table as they are, and rows that refer to them
still do. -/
def Nb.Retains (p : HealthCheck → Prop) (nb nb' : Nb) : Prop :=
  ∀ hc ∈ nb.healthChecks, p hc → hc ∈ nb'.healthChecks ∧
    ∀ v, nb.Refers v hc.uuid → nb'.Refers v hc.uuid

namespace Nb.Retains
variable {p : HealthCheck → Prop}

theorem refl (p : HealthCheck → Prop) (nb : Nb) : nb.Retains p nb :=
  fun _ hm _ => ⟨hm, fun _ hr => hr⟩

theorem trans (h : nb.Retains p nb') (h' : nb'.Retains p nb'') : nb.Retains p nb'' := by
  intro hc hm hp
  obtain ⟨hm', hr⟩ := h hc hm hp
  obtain ⟨hm'', hr'⟩ := h' hc hm' hp
  exact ⟨hm'', fun v hv => hr' v (hr v hv)⟩

theorem putLb (h : nb.Retains p nb') (hrow : nb'.lb? row'.uuid = some row)
    (hchecks : row'.healthCheck = row.healthCheck) : nb.Retains p (nb'.putLb row') :=
  h.trans fun _ hm _ => ⟨hm, fun _ hr => (Nb.refers_putLb hrow hchecks).mpr hr⟩

theorem withCheck (h : nb.Retains p nb') (hrow : nb'.lb? row.uuid = some row) (vip : Str)
    (options externalIds : Dict Str Str) :
    nb.Retains p (nb'.withCheck row vip options externalIds) :=
  h.trans fun _ hm _ => ⟨List.mem_append_left _ hm,
    fun _ hr => (Nb.refers_withCheck hrow vip options externalIds).mpr (.inl hr)⟩

theorem dropChecks (h : nb.Retains p nb') (hrow : nb'.lb? row.uuid = some row)
    (hus : ∀ hc ∈ nb'.healthChecks, p hc → hc.uuid ∉ us) :
    nb.Retains p (nb'.dropChecks row us) :=
  h.trans fun hc hm hp => ⟨List.mem_filter.mpr ⟨hm, decide_eq_true (hus hc hm hp)⟩,
    fun _ hr => (Nb.refers_dropChecks hrow).mpr ⟨hr, fun _ => hus hc hm hp⟩⟩

end Nb.Retains

end OvnOctavia

import OvnOctavia.Transactions

/-!
The health checks of a row: those it refers to in the table, what adding one does to
them, and what removing one does.
-/

namespace OvnOctavia

variable {nb : Nb} {row row' : LoadBalancer} {u : Nat}

/-- The health checks a row refers to, in its order. -/
def Nb.checksOf (nb : Nb) (row : LoadBalancer) : List HealthCheck :=
  row.healthCheck.filterMap nb.hc?

/-- The row is there and refers to health checks of the table, each once. -/
structure Watched (nb : Nb) (row : LoadBalancer) : Prop where
  wellFormed : nb.WellFormed
  found : nb.lb? row.uuid = some row
  nodup : row.healthCheck.Nodup
  present : ∀ u ∈ row.healthCheck, ∃ hc, nb.hc? u = some hc
  lt_next : ∀ hc ∈ nb.healthChecks, hc.uuid < nb.nextUuid

theorem Nb.hc?_eq_some {hc : HealthCheck} (h : nb.hc? u = some hc) :
    hc ∈ nb.healthChecks ∧ hc.uuid = u :=
  ⟨List.mem_of_find?_eq_some h, by simpa using List.find?_some h⟩

theorem Watched.uuids_checksOf (h : Watched nb row) :
    (nb.checksOf row).map HealthCheck.uuid = row.healthCheck := by
  have hall := h.present
  rw [Nb.checksOf]
  generalize row.healthCheck = l at hall
  induction l with
  | nil => rfl
  | cons u l ih =>
      obtain ⟨hc, hhc⟩ := hall u (List.mem_cons_self ..)
      rw [List.filterMap_cons_some hhc, List.map_cons, (Nb.hc?_eq_some hhc).2,
        ih fun x hx => hall x (List.mem_cons_of_mem _ hx)]

theorem Watched.length_checksOf (h : Watched nb row) :
    (nb.checksOf row).length = row.healthCheck.length := by
  rw [← h.uuids_checksOf, List.length_map]

theorem run_healthChecksOf {lb : LoadBalancer} (h : nb.lb? lb.uuid = some row) :
    (healthChecksOf lb).run Nb.apply nb = (.ok (nb.checksOf row), nb) := by
  rw [healthChecksOf, Prog.run, live_of_lb? h]
  rfl

/-- The store with one more health check of the row. -/
def Nb.withCheck (nb : Nb) (row : LoadBalancer) (vip : Str) (options externalIds : Dict Str Str) :
    Nb :=
  { nb.putLb { row with healthCheck := row.healthCheck ++ [nb.nextUuid] } with
    healthChecks := nb.healthChecks ++ [{ uuid := nb.nextUuid, vip, options, externalIds }]
    nextUuid := nb.nextUuid + 1 }

theorem Watched.lt_of_mem (h : Watched nb row) (hu : u ∈ row.healthCheck) : u < nb.nextUuid := by
  obtain ⟨hc, hhc⟩ := h.present u hu
  obtain ⟨hm, rfl⟩ := Nb.hc?_eq_some hhc
  exact h.lt_next hc hm

theorem Watched.apply_hcCreate (h : Watched nb row) (vip : Str)
    (options externalIds : Dict Str Str) :
    Nb.apply (.hcCreate row.uuid vip options externalIds) nb =
      .ok (nb.withCheck row vip options externalIds) := by
  have hnew : nb.nextUuid ∉ row.healthCheck := fun hm => absurd (h.lt_of_mem hm) (Nat.lt_irrefl _)
  have hup : nb.updateLb row.uuid (LbOp.apply · (.addHealthCheck nb.nextUuid)) =
      nb.putLb { row with healthCheck := row.healthCheck ++ [nb.nextUuid] } := by
    rw [Nb.updateLb_eq_putLb h.wellFormed h.found rfl]
    simp only [LbOp.apply, if_neg hnew]
  simp only [Nb.apply, h.found, hup, Nb.withCheck]

theorem Watched.hc?_withCheck (h : Watched nb row) (vip : Str) (options externalIds : Dict Str Str)
    (u : Nat) : (nb.withCheck row vip options externalIds).hc? u =
      if u = nb.nextUuid then some { uuid := nb.nextUuid, vip, options, externalIds }
      else nb.hc? u := by
  simp only [Nb.withCheck, Nb.hc?, List.find?_append]
  split
  · next hu =>
      have hnone : nb.healthChecks.find? (·.uuid = u) = none := by
        rw [List.find?_eq_none]
        intro hc hm
        have := h.lt_next hc hm
        simp only [decide_eq_true_eq]
        omega
      rw [hnone, hu]
      simp
  · next hu =>
      cases nb.healthChecks.find? fun hc => decide (hc.uuid = u) with
      | some hc => rfl
      | none =>
          have hne : nb.nextUuid ≠ u := fun he => hu he.symm
          simp [hne]

/-- The health checks of the row after one more. -/
theorem Watched.withCheck (h : Watched nb row) (vip : Str) (options externalIds : Dict Str Str) :
    Watched (nb.withCheck row vip options externalIds)
        { row with healthCheck := row.healthCheck ++ [nb.nextUuid] } ∧
      (nb.withCheck row vip options externalIds).checksOf
          { row with healthCheck := row.healthCheck ++ [nb.nextUuid] } =
        nb.checksOf row ++ [{ uuid := nb.nextUuid, vip, options, externalIds }] := by
  have hget := h.hc?_withCheck vip options externalIds
  have hold : ∀ u ∈ row.healthCheck, (nb.withCheck row vip options externalIds).hc? u =
      nb.hc? u := by
    intro u hu
    have := h.lt_of_mem hu
    rw [hget, if_neg (by omega)]
  refine ⟨⟨?_, ?_, ?_, fun u hu => ?_, fun hc hm => ?_⟩, ?_⟩
  · have hput := h.wellFormed.putLb { row with healthCheck := row.healthCheck ++ [nb.nextUuid] }
    exact ⟨hput.nodup, fun lb hlb => Nat.lt_succ_of_lt (hput.lt_next lb hlb)⟩
  · exact Nb.lb?_putLb { row with healthCheck := row.healthCheck ++ [nb.nextUuid] }
      (show nb.lb? row.uuid = some row from h.found)
  · rw [List.nodup_append]
    refine ⟨h.nodup, List.nodup_singleton _, fun a ha b hb => ?_⟩
    rw [List.mem_singleton.mp hb]
    exact Nat.ne_of_lt (h.lt_of_mem ha)
  · rcases List.mem_append.mp hu with hu | hu
    · rw [hold u hu]
      exact h.present u hu
    · rw [List.mem_singleton.mp hu, hget, if_pos rfl]
      exact ⟨_, rfl⟩
  · have hm' : hc ∈ nb.healthChecks ++ [{ uuid := nb.nextUuid, vip, options, externalIds }] := hm
    rcases List.mem_append.mp hm' with hm | hm
    · exact Nat.lt_succ_of_lt (h.lt_next hc hm)
    · rw [List.mem_singleton.mp hm]
      exact Nat.lt_succ_self _
  · rw [Nb.checksOf, List.filterMap_append, List.filterMap_congr hold]
    simp [hget, Nb.checksOf]

theorem checksOf_of_hc? {nb' : Nb} (h : ∀ u ∈ row.healthCheck, nb'.hc? u = nb.hc? u)
    (hrow : row'.healthCheck = row.healthCheck) : nb'.checksOf row' = nb.checksOf row := by
  rw [Nb.checksOf, Nb.checksOf, hrow]
  exact List.filterMap_congr h

/-- The health checks of the row without one. -/
theorem checksOf_dropped {nb' : Nb} (h : ∀ v, v ≠ u → nb'.hc? v = nb.hc? v)
    (hrow : row'.healthCheck = row.healthCheck.filter (· ≠ u)) :
    nb'.checksOf row' = (nb.checksOf row).filter (·.uuid ≠ u) := by
  rw [Nb.checksOf, Nb.checksOf, hrow, List.filterMap_filter, List.filter_filterMap]
  refine List.filterMap_congr fun v _ => ?_
  by_cases hv : v = u
  · subst hv
    cases hget : nb.hc? v with
    | none => simp
    | some hc => simp [Option.filter, (Nb.hc?_eq_some hget).2]
  · rw [h v hv]
    cases hget : nb.hc? v with
    | none => simp [hv]
    | some hc => simp [Option.filter, hv, (Nb.hc?_eq_some hget).2]

theorem Watched.putLb (h : Watched nb row) (row' : LoadBalancer) (hu : row'.uuid = row.uuid)
    (hrow : row'.healthCheck = row.healthCheck) :
    Watched (nb.putLb row') row' ∧ (nb.putLb row').checksOf row' = nb.checksOf row := by
  have hw := h.wellFormed.putLb row'
  have hput : nb.lb? row'.uuid = some row := hu ▸ h.found
  refine ⟨⟨hw, Nb.lb?_putLb row' hput, hrow ▸ h.nodup, ?_, h.lt_next⟩,
    checksOf_of_hc? (fun _ _ => rfl) hrow⟩
  rw [hrow]
  exact h.present

/-- The store without a health check, which is taken out of the row as well. -/
def Nb.dropCheck (nb : Nb) (row : LoadBalancer) (u : Nat) : Nb :=
  { nb.putLb { row with healthCheck := row.healthCheck.filter (· ≠ u) } with
    healthChecks := nb.healthChecks.filter (·.uuid ≠ u) }

theorem Nb.hc?_dropCheck {v : Nat} (h : v ≠ u) : (nb.dropCheck row u).hc? v = nb.hc? v := by
  change (nb.healthChecks.filter (·.uuid ≠ u)).find? (·.uuid = v) = nb.hc? v
  rw [List.find?_filter, Nb.hc?]
  congr 1
  funext x
  by_cases hx : x.uuid = v
  · simp [hx, h]
  · simp [hx]

theorem Watched.transact_dropCheck (h : Watched nb row) {hc : HealthCheck}
    (hu : nb.hc? u = some hc) :
    Prog.transact Nb.apply [.lbUpdate row.uuid (.removeHealthCheck u), .hcDestroy u] nb =
      .ok (nb.dropCheck row u) := by
  have hfirst : Nb.apply (.lbUpdate row.uuid (.removeHealthCheck u)) nb =
      .ok (nb.putLb { row with healthCheck := row.healthCheck.filter (· ≠ u) }) := by
    rw [Nb.apply_lbUpdate h.found, Nb.updateLb_eq_putLb h.wellFormed h.found rfl]
    rfl
  have hget : (nb.putLb { row with healthCheck := row.healthCheck.filter (· ≠ u) }).hc? u =
      some hc := hu
  rw [Prog.transact_cons, hfirst]
  change (Nb.apply (.hcDestroy u) _).bind _ = _
  simp only [Nb.apply, hget]
  rfl

theorem Watched.dropCheck (h : Watched nb row) (u : Nat) :
    Watched (nb.dropCheck row u) { row with healthCheck := row.healthCheck.filter (· ≠ u) } ∧
      (nb.dropCheck row u).checksOf { row with healthCheck := row.healthCheck.filter (· ≠ u) } =
        (nb.checksOf row).filter (·.uuid ≠ u) := by
  have hput := h.wellFormed.putLb { row with healthCheck := row.healthCheck.filter (· ≠ u) }
  refine ⟨⟨⟨hput.nodup, hput.lt_next⟩, ?_, h.nodup.filter _, fun v hv => ?_, fun hc hm => ?_⟩,
    checksOf_dropped (fun v hv => Nb.hc?_dropCheck hv) rfl⟩
  · exact Nb.lb?_putLb { row with healthCheck := row.healthCheck.filter (· ≠ u) }
      (show nb.lb? row.uuid = some row from h.found)
  · obtain ⟨hv, hne⟩ := List.mem_filter.mp hv
    rw [Nb.hc?_dropCheck (by simpa using hne)]
    exact h.present v hv
  · exact h.lt_next hc (List.mem_of_mem_filter hm)

end OvnOctavia

import OvnOctavia.KeptRuns

/-!
Switching a load balancer off and on again. The traffic map written with the new
admin state is framed from the row as it still was, so the traffic goes on after the
load balancer is disabled and is lost once it is enabled again.
-/

namespace OvnOctavia

/-- The row `lb_update` leaves for a requested admin state. -/
def switched (env : Env) (up : Bool) (row : LoadBalancer) : Except Exc LoadBalancer :=
  match row.externalIds.get? enabledKey with
  | none => .error .keyError
  | some enabled =>
      if enabled = strBool up then .ok row
      else (frameVipIps env row.externalIds row.externalIds).map fun vips =>
        { row with externalIds := row.externalIds.set enabledKey (strBool up), vips }

section Row
variable {env : Env} {up : Bool} {row row' lb : LoadBalancer} {nb : Nb}

theorem switched_cases (h : switched env up row = .ok row') :
    row.externalIds.get? enabledKey = some (strBool up) ∧ row' = row ∨
    row.externalIds.get? enabledKey ≠ some (strBool up) ∧ ∃ vips,
      frameVipIps env row.externalIds row.externalIds = .ok vips ∧
      row' = { row with externalIds := row.externalIds.set enabledKey (strBool up), vips } := by
  unfold switched at h
  cases he : row.externalIds.get? enabledKey with
  | none => simp [he] at h
  | some enabled =>
      rw [he] at h
      by_cases hup : enabled = strBool up
      · simp only [if_pos hup] at h
        exact .inl ⟨by rw [hup], (Except.ok.inj h).symm⟩
      · simp only [if_neg hup] at h
        obtain ⟨vips, hvips, hrow⟩ := Except.map_eq_ok.mp h
        exact .inr ⟨fun hs => hup (Option.some.inj hs), vips, hvips, hrow.symm⟩

theorem uuid_switched (h : switched env up row = .ok row') : row'.uuid = row.uuid := by
  obtain ⟨-, rfl⟩ | ⟨-, _, -, rfl⟩ := switched_cases h
  · rfl
  · rfl

theorem name_switched (h : switched env up row = .ok row') : row'.name = row.name := by
  obtain ⟨-, rfl⟩ | ⟨-, _, -, rfl⟩ := switched_cases h
  · rfl
  · rfl

theorem enabled_switched (h : switched env up row = .ok row') :
    row'.externalIds.get? enabledKey = some (strBool up) := by
  obtain ⟨he, rfl⟩ | ⟨-, _, -, rfl⟩ := switched_cases h
  · exact he
  · exact Dict.get?_set_self ..

/-- A row that cannot be switched does not show the requested state. -/
theorem enabled_of_switched_error {e : Exc} (h : switched env up row = .error e) :
    row.externalIds.get? enabledKey ≠ some (strBool up) := by
  intro hup
  simp [switched, hup] at h

theorem run_lbUpdateRow_eq (env : Env) (up : Bool) (hw : nb.WellFormed)
    (hget : nb.lb? lb.uuid = some row) :
    (lbUpdateRow env up lb).run Nb.apply nb =
      match switched env up row with
      | .error e => (.error e, nb)
      | .ok row' => (.ok (), nb.putLb row') := by
  have hself : nb.putLb row = nb := by
    refine Nb.putLb_self hw ?_
    rw [(Nb.lb?_eq_some hget).2, hget]
  simp only [lbUpdateRow, Prog.run_bind, run_readLb, live_of_lb? hget, switched]
  cases row.externalIds.get? enabledKey with
  | none => rfl
  | some enabled =>
      by_cases hup : enabled = strBool up
      · simp only [hup, ne_eq, not_true_eq_false, if_false, if_true, Prog.run_pure, hself]
      · simp only [hup, ne_eq, not_false_eq_true, if_true, if_false, Prog.run_bind,
          run_refreshLbVips, live_of_lb? hget]
        cases frameVipIps env row.externalIds row.externalIds with
        | error e => rfl
        | ok vips =>
            have hx := run_executeUpdates hw hget
              [.setExternalIds (.single enabledKey (strBool up)), .clearVips, .setVips vips] rfl
            simpa [Except.map, LbOp.apply] using hx

end Row

section Rows
variable {env : Env} {up : Bool} {nb nb' : Nb} {lbId : Str}

/-- The rows `todo` as `lb_update` works through them: each is switched, or the first that
cannot be ends the loop. -/
theorem run_each_lbUpdateRow (env : Env) (up : Bool) {todo : List LoadBalancer} (hw : nb.WellFormed)
    (hnd : (todo.map LoadBalancer.uuid).Nodup) (hall : ∀ lb ∈ todo, nb.lb? lb.uuid = some lb) :
    ∃ r nb', (Prog.each (lbUpdateRow env up) todo).run Nb.apply nb = (r, nb') ∧
      nb'.WellFormed ∧ (∀ u ∉ todo.map LoadBalancer.uuid, nb'.lb? u = nb.lb? u) ∧
      ((r = .ok () ∧ ∀ lb ∈ todo, ∃ lb', switched env up lb = .ok lb' ∧
          nb'.lb? lb.uuid = some lb') ∨
        ∃ lb ∈ todo, ∃ e, switched env up lb = .error e ∧ nb'.lb? lb.uuid = some lb) := by
  induction todo generalizing nb with
  | nil => exact ⟨_, nb, rfl, hw, fun _ _ => rfl, .inl ⟨rfl, by simp⟩⟩
  | cons lb todo ih =>
      have hget := hall lb (List.mem_cons_self ..)
      obtain ⟨hnot, hnd'⟩ := List.nodup_cons.mp hnd
      have hstep := run_lbUpdateRow_eq env up hw hget
      have hrun : ∀ x, (Prog.each (lbUpdateRow env up) (lb :: todo)).run Nb.apply nb = x ↔
          (lbUpdateRow env up lb >>= fun _ => Prog.each (lbUpdateRow env up) todo).run
            Nb.apply nb = x := fun x => Iff.rfl
      simp only [hrun, Prog.run_bind, hstep]
      cases hs : switched env up lb with
      | error e =>
          exact ⟨_, nb, rfl, hw, fun _ _ => rfl, .inr ⟨lb, List.mem_cons_self .., e, hs, hget⟩⟩
      | ok lb' =>
          have hu := uuid_switched hs
          have hother : ∀ u ≠ lb.uuid, (nb.putLb lb').lb? u = nb.lb? u :=
            fun u hne => Nb.lb?_putLb_of_ne nb (hu ▸ hne)
          have hself : (nb.putLb lb').lb? lb.uuid = some lb' := by
            have hx := Nb.lb?_putLb lb' (hu ▸ hget)
            rwa [hu] at hx
          have hrest : ∀ x ∈ todo, (nb.putLb lb').lb? x.uuid = some x := by
            intro x hx
            rw [hother _ fun he => hnot (he ▸ List.mem_map_of_mem hx)]
            exact hall x (List.mem_cons_of_mem _ hx)
          obtain ⟨r, nb', hr, hw', hkeep, hend⟩ := ih (hw.putLb lb') hnd' hrest
          refine ⟨r, nb', hr, hw', fun u hn => ?_, ?_⟩
          · rw [List.map_cons, List.mem_cons, not_or] at hn
            rw [hkeep u hn.2, hother u hn.1]
          · rcases hend with ⟨hok, hend⟩ | ⟨x, hx, e, he, hxget⟩
            · refine .inl ⟨hok, fun x hx => ?_⟩
              rcases List.mem_cons.mp hx with rfl | hx
              · exact ⟨lb', hs, (hkeep _ hnot).trans hself⟩
              · exact hend x hx
            · exact .inr ⟨x, List.mem_cons_of_mem _ hx, e, he, hxget⟩

end Rows

section Requests
variable {env : Env} {up : Bool} {nb : Nb} {info : LoadBalancerInfo}

/-- The rows after `lb_update` are those its loop leaves, also when it failed. -/
theorem handled_lbUpdate_eq (env : Env) (nb : Nb) (hrows : nb.lbsNamed info.id ≠ [])
    (hup : info.adminStateUp = some up) : handled env (.lbUpdate info) nb =
      ((Prog.each (lbUpdateRow env up) (nb.lbsNamed info.id)).run Nb.apply nb).2 := by
  rw [handled_eq, handle, run_map_some, lbUpdate, hup]
  simp only [Prog.run_bind, Prog.run_attempt, run_findOvnLbs, if_neg hrows]
  generalize (Prog.each (lbUpdateRow env up) (nb.lbsNamed info.id)).run Nb.apply nb = x
  obtain ⟨r, nb'⟩ := x
  cases r with
  | ok _ => rfl
  | error _ => rfl

/-- `lb_update` switches every row, or leaves one that cannot be as it is. -/
theorem handled_lbUpdate (env : Env) (info : LoadBalancerInfo) (hw : nb.WellFormed)
    (hup : info.adminStateUp = some up) :
    (handled env (.lbUpdate info) nb).WellFormed ∧
      ((∀ row' ∈ (handled env (.lbUpdate info) nb).lbsNamed info.id,
          ∃ row ∈ nb.lbsNamed info.id, switched env up row = .ok row') ∧
        (∀ row ∈ nb.lbsNamed info.id, ∃ row' ∈ (handled env (.lbUpdate info) nb).lbsNamed info.id,
          switched env up row = .ok row') ∨
      ∃ row ∈ nb.lbsNamed info.id, row ∈ (handled env (.lbUpdate info) nb).lbsNamed info.id ∧
        ∃ e, switched env up row = .error e) := by
  by_cases hrows : nb.lbsNamed info.id = []
  · have hsame : handled env (.lbUpdate info) nb = nb := by
      rw [handled_eq, handle, run_map_some, lbUpdate, hup]
      simp only [Prog.run_bind, Prog.run_attempt, run_findOvnLbs, if_pos hrows]
      rfl
    rw [hsame, hrows]
    exact ⟨hw, .inl ⟨by simp, by simp⟩⟩
  · have hmem : ∀ lb ∈ nb.lbsNamed info.id, nb.lb? lb.uuid = some lb :=
      fun lb hlb => hw.lb?_of_mem (Nb.mem_lbsNamed.mp hlb).1
    have hnd : ((nb.lbsNamed info.id).map LoadBalancer.uuid).Nodup :=
      hw.nodup.sublist (List.filter_sublist.map _)
    obtain ⟨r, nb', hrun, hw', hkeep, hend⟩ := run_each_lbUpdateRow env up hw hnd hmem
    rw [handled_lbUpdate_eq env nb hrows hup, hrun]
    have hstate : ∀ {u row'}, nb'.lb? u = some row' → row'.name = info.id →
        row' ∈ nb'.lbsNamed info.id :=
      fun hget hn => Nb.mem_lbsNamed.mpr ⟨(Nb.lb?_eq_some hget).1, hn⟩
    refine ⟨hw', ?_⟩
    rcases hend with ⟨-, hend⟩ | ⟨lb, hlb, e, he, hget⟩
    · refine .inl ⟨fun row' hrow' => ?_, fun row hrow => ?_⟩
      · obtain ⟨hm', hn'⟩ := Nb.mem_lbsNamed.mp hrow'
        have hget := hw'.lb?_of_mem hm'
        by_cases hu : row'.uuid ∈ (nb.lbsNamed info.id).map LoadBalancer.uuid
        · obtain ⟨row, hrow, hru⟩ := List.mem_map.mp hu
          obtain ⟨lb', hlb', hget'⟩ := hend row hrow
          rw [hru, hget] at hget'
          exact ⟨row, hrow, Option.some.inj hget' ▸ hlb'⟩
        · have hm := (Nb.lb?_eq_some ((hkeep _ hu).symm.trans hget)).1
          exact absurd (List.mem_map_of_mem (Nb.mem_lbsNamed.mpr ⟨hm, hn'⟩)) hu
      · obtain ⟨lb', hlb', hget'⟩ := hend row hrow
        exact ⟨lb', hstate hget' ((name_switched hlb').trans (Nb.mem_lbsNamed.mp hrow).2), hlb'⟩
    · exact .inr ⟨lb, hlb, hstate hget (Nb.mem_lbsNamed.mp hlb).2, e, he⟩

/-- Disabling takes the traffic away on every row, and enabling brings back what it was. -/
def SwitchesTraffic (env : Env) (info : LoadBalancerInfo) (nb : Nb) : Prop :=
  let off := handled env (.lbUpdate { info with adminStateUp := some false }) nb
  let on := handled env (.lbUpdate { info with adminStateUp := some true }) off
  (∀ row ∈ off.lbsNamed info.id,
    row.vips = ∅ ∧ row.externalIds.get? enabledKey = some (strBool false)) ∧
  ∀ row ∈ nb.lbsNamed info.id, ∃ row' ∈ on.lbsNamed info.id,
    row'.uuid = row.uuid ∧ row'.vips = row.vips

/-- A row with an admin state that carries no traffic and would be given none. -/
structure CarriesNothing (env : Env) (row : LoadBalancer) : Prop where
  enabled : ∃ v, row.externalIds.get? enabledKey = some v
  vips : row.vips = ∅
  framed : frameVipIps env row.externalIds row.externalIds = .ok ∅

theorem frameVipIps_disabled {e : Dict Str Str} (he : e.get? enabledKey = some (strBool false))
    (env : Env) (r : Dict Str Str) : frameVipIps env r e = .ok ∅ := by
  rw [frameVipIps, if_pos he]

theorem CarriesNothing.switched_off {row : LoadBalancer} (h : CarriesNothing env row) :
    ∃ row', switched env false row = .ok row' ∧ row'.vips = ∅ := by
  obtain ⟨v, hv⟩ := h.enabled
  by_cases hup : v = strBool false
  · exact ⟨row, by simp [switched, hv, hup], h.vips⟩
  · exact ⟨{ row with externalIds := row.externalIds.set enabledKey (strBool false), vips := ∅ },
      by simp [switched, hv, hup, h.framed, Except.map], rfl⟩

/-- Enabling a disabled row frames it as the disabled row it is. -/
theorem switched_on {row : LoadBalancer}
    (he : row.externalIds.get? enabledKey = some (strBool false)) :
    switched env true row =
      .ok { row with externalIds := row.externalIds.set enabledKey (strBool true), vips := ∅ } := by
  have hne : strBool false ≠ strBool true := by decide
  simp [switched, he, hne, frameVipIps_disabled he, Except.map]

theorem switchesTraffic_iff (env : Env) (info : LoadBalancerInfo) (hw : nb.WellFormed) :
    SwitchesTraffic env info nb ↔ ∀ row ∈ nb.lbsNamed info.id, CarriesNothing env row := by
  obtain ⟨hw', hoff⟩ := handled_lbUpdate env { info with adminStateUp := some false } hw rfl
  have hon := (handled_lbUpdate env { info with adminStateUp := some true } hw' rfl).2
  simp only [SwitchesTraffic]
  generalize handled env (.lbUpdate { info with adminStateUp := some false }) nb = off
    at hoff hon
  -- once every row is disabled, enabling them empties their traffic maps
  have hback : (∀ row ∈ off.lbsNamed info.id,
      row.externalIds.get? enabledKey = some (strBool false)) →
      (∀ row' ∈ (handled env (.lbUpdate { info with adminStateUp := some true }) off).lbsNamed
        info.id, row'.vips = ∅) ∧
      ∀ row ∈ off.lbsNamed info.id, ∃ row' ∈ (handled env (.lbUpdate
        { info with adminStateUp := some true }) off).lbsNamed info.id, row'.uuid = row.uuid := by
    intro hdown
    rcases hon with ⟨hfrom, hto⟩ | ⟨row, hrow, -, e, he⟩
    · refine ⟨fun row' hrow' => ?_, fun row hrow => ?_⟩
      · obtain ⟨row, hrow, hs⟩ := hfrom row' hrow'
        rw [switched_on (hdown row hrow)] at hs
        exact Except.ok.inj hs ▸ rfl
      · obtain ⟨row', hrow', hs⟩ := hto row hrow
        exact ⟨row', hrow', uuid_switched hs⟩
    · rw [switched_on (hdown row hrow)] at he
      cases he
  constructor
  · rintro ⟨hdown, hup⟩ row hrow
    obtain ⟨hempty, -⟩ := hback fun row hrow => (hdown row hrow).2
    rcases hoff with ⟨-, hto⟩ | ⟨row₁, -, hrow₁, e, he⟩
    · obtain ⟨row₁, hrow₁, hs⟩ := hto row hrow
      obtain ⟨row', hrow', -, hvips⟩ := hup row hrow
      have hnone : row.vips = ∅ := hvips.symm.trans (hempty row' hrow')
      rcases switched_cases hs with ⟨he, -⟩ | ⟨-, vips, hframe, rfl⟩
      · exact ⟨⟨_, he⟩, hnone, frameVipIps_disabled he env _⟩
      · have hv : vips = ∅ := (hdown _ hrow₁).1
        refine ⟨?_, hnone, hv ▸ hframe⟩
        cases he : row.externalIds.get? enabledKey with
        | some v => exact ⟨v, rfl⟩
        | none => simp [switched, he] at hs
    · exact absurd (hdown row₁ hrow₁).2 (enabled_of_switched_error he)
  · intro h
    rcases hoff with ⟨hfrom, hto⟩ | ⟨row, hrow, -, e, he⟩
    · have hdown : ∀ row ∈ off.lbsNamed info.id, row.vips = ∅ ∧
          row.externalIds.get? enabledKey = some (strBool false) := by
        intro row₁ hrow₁
        obtain ⟨row, hrow, hs⟩ := hfrom row₁ hrow₁
        obtain ⟨row₂, hs₂, hvips⟩ := (h row hrow).switched_off
        cases hs.symm.trans hs₂
        exact ⟨hvips, enabled_switched hs⟩
      obtain ⟨hempty, hthere⟩ := hback fun row hrow => (hdown row hrow).2
      refine ⟨hdown, fun row hrow => ?_⟩
      obtain ⟨row₁, hrow₁, hs⟩ := hto row hrow
      obtain ⟨row', hrow', hu⟩ := hthere row₁ hrow₁
      exact ⟨row', hrow', hu.trans (uuid_switched hs),
        (hempty row' hrow').trans (h row hrow).vips.symm⟩
    · obtain ⟨row', hs, -⟩ := (h row hrow).switched_off
      cases he.symm.trans hs

end Requests

theorem switchesTraffic_iff_example :
    SwitchesTraffic exampleEnv exampleLb exampleCreated ↔
      ∀ row ∈ exampleCreated.lbsNamed exampleLb.id, CarriesNothing exampleEnv row :=
  switchesTraffic_iff exampleEnv exampleLb ⟨by decide +kernel, by decide +kernel⟩

/-- Disabling leaves the traffic of the running listener in place. -/
theorem not_switchesTraffic_exampleServing :
    ¬ SwitchesTraffic exampleEnv exampleLb exampleServing := by
  unfold SwitchesTraffic
  decide +kernel

end OvnOctavia

import OvnOctavia.RefCounts

/-!
The association with a switch in sync mode. Two things are skipped there: the link
when the switch has it, and the counts when no other switch is counted. A counted
switch that has lost its link is taken for linked, so the link is not put back.
-/

namespace OvnOctavia

section Running
variable {env : Env} {nb nb' : Nb} {cs : List Command}

/-- Commands computed from one view of the database and committed once: another try
ends in the same way. -/
theorem run_retried (f : Nb → Except Exc (List Command)) (again : Exc → Bool) (n : Nat) (nb : Nb) :
    (Prog.retry again (do
      let nb ← Prog.get
      let commands ← Prog.ofExcept (f nb)
      executeCommands commands : Nbctl Unit) n).run Nb.apply nb =
      match f nb with
      | .error e => (.error e, nb)
      | .ok cs =>
          match Prog.transact Nb.apply cs nb with
          | .ok nb' => (.ok (), nb')
          | .error e => (.error e, nb) := by
  have hbody : (do
      let nb ← Prog.get
      let commands ← Prog.ofExcept (f nb)
      executeCommands commands : Nbctl Unit).run Nb.apply nb =
      match f nb with
      | .error e => (.error e, nb)
      | .ok cs =>
          match Prog.transact Nb.apply cs nb with
          | .ok nb' => (.ok (), nb')
          | .error e => (.error e, nb) := by
    simp only [Prog.run_bind, Prog.run_get, Prog.run_ofExcept]
    cases f nb with
    | error e => rfl
    | ok cs =>
        cases cs with
        | nil => rfl
        | cons c cs =>
            dsimp only [executeCommands]
            rw [Prog.run_transaction]
            cases Prog.transact Nb.apply (c :: cs) nb with
            | ok nb' => rfl
            | error e => rfl
  rw [Prog.run_retry, hbody]
  intro e he
  rw [hbody] at he ⊢
  cases hf : f nb with
  | error e => rfl
  | ok cs =>
      cases ht : Prog.transact Nb.apply cs nb with
      | ok nb' =>
          rw [hf] at he
          simp only [ht] at he
          cases he
      | error e => simp only [ht]

theorem run_updateLbToLsAssociation {lb : LoadBalancer} {a : LsAssociation}
    (hcs : getLbToLsAssociationCommands env nb lb a = .ok cs)
    (ht : Prog.transact Nb.apply cs nb = .ok nb') :
    (updateLbToLsAssociation env lb a).run Nb.apply nb = (.ok (), nb') := by
  have hrun := run_retried (fun nb => getLbToLsAssociationCommands env nb lb a)
    (· = .rowNotFound) 2 nb
  simp only [hcs, ht] at hrun
  exact hrun

theorem run_updateLbToLsAssociation_error {lb : LoadBalancer} {a : LsAssociation} {e : Exc}
    (hcs : getLbToLsAssociationCommands env nb lb a = .error e) :
    (updateLbToLsAssociation env lb a).run Nb.apply nb = (.error e, nb) := by
  have hrun := run_retried (fun nb => getLbToLsAssociationCommands env nb lb a)
    (· = .rowNotFound) 2 nb
  simp only [hcs] at hrun
  exact hrun

end Running

section Counts
variable {row : LoadBalancer} {a : LsAssociation} {name : Str}

theorem updateLsRefs_same (hupdate : a.updateLsRef = true) (hsync : a.isSync = true)
    (htext : row.externalIds.get? lbExtIdsLsRefsKey ≠ some []) {refs : Dict Str Nat}
    (hrefs : ∀ k, k ∈ refs.keys ↔ k ∈ (loadLsRefs row.externalIds).keys) :
    updateLsRefs row a refs = .ok [] := by
  simp only [updateLsRefs, hupdate, hsync, Bool.not_true, Bool.false_eq_true, if_false, htext]
  rw [if_pos]
  rw [Bool.and_eq_true, List.all_eq_true, List.all_eq_true]
  exact ⟨fun k hk => decide_eq_true ((hrefs k).mpr hk),
    fun k hk => decide_eq_true ((hrefs k).mp hk)⟩

theorem updateLsRefs_new (hupdate : a.updateLsRef = true) (hsync : a.isSync = true)
    (htext : row.externalIds.get? lbExtIdsLsRefsKey ≠ some [])
    (hname : name ∉ (loadLsRefs row.externalIds).keys) (n : Nat) :
    updateLsRefs row a ((loadLsRefs row.externalIds).set name n) =
      .ok [setLsRefs row ((loadLsRefs row.externalIds).set name n)] := by
  simp only [updateLsRefs, hupdate, hsync, Bool.not_true, Bool.false_eq_true, if_false, htext]
  rw [if_neg]
  rw [Bool.and_eq_true, List.all_eq_true, List.all_eq_true]
  intro h
  have hk := h.2 name (by rw [Dict.mem_keys_set]; exact .inl rfl)
  exact hname (of_decide_eq_true hk)

theorem updateLsRefs_empty (hupdate : a.updateLsRef = true) (hsync : a.isSync = true)
    (htext : row.externalIds.get? lbExtIdsLsRefsKey = some []) (refs : Dict Str Nat) :
    updateLsRefs row a refs = .error .attributeError := by
  simp [updateLsRefs, hupdate, hsync, htext]

end Counts

section Links
variable {env : Env} {nb nb' : Nb} {lb row : LoadBalancer} {a : LsAssociation} {name : Str}
  {ls : LogicalSwitch}

/-- An association with the switch `name` that is to be brought in step. -/
structure LsAssociation.Syncs (env : Env) (a : LsAssociation) (name : Str) : Prop where
  name : lsNameOf env a = .ok (some (some name))
  associate : a.associate = true
  updateLsRef : a.updateLsRef = true
  isSync : a.isSync = true

theorem getLbToLsAssociationCommands_eq (ha : a.Syncs env name) (hrow : nb.lb? lb.uuid = some row)
    (hls : nb.switch? (.name name) = some ls) :
    getLbToLsAssociationCommands env nb lb a = lsCommands row a (some name) (some ls) := by
  simp only [getLbToLsAssociationCommands, ha.name, Except.ok_bind, live_of_lb? hrow,
    Option.bind_some, hls]

/-- A linked switch is counted once if it is not counted. -/
theorem lsCommands_linked (ha : a.Syncs env name) (hlink : row.uuid ∈ ls.loadBalancer) :
    lsCommands row a (some name) (some ls) =
      updateLsRefs row a (if (loadLsRefs row.externalIds).contains name then
        loadLsRefs row.externalIds else (loadLsRefs row.externalIds).set name 1) := by
  have hl : (a.isSync && ls.loadBalancer.contains row.uuid) = true := by
    rw [ha.isSync, Bool.true_and, List.contains_iff_mem]
    exact hlink
  simp only [lsCommands, hl, if_true]

/-- A counted switch without the link is counted once more, which is not written. -/
theorem lsCommands_counted (ha : a.Syncs env name) (hlink : row.uuid ∉ ls.loadBalancer) {n : Nat}
    (hn : (loadLsRefs row.externalIds).get? name = some n) :
    lsCommands row a (some name) (some ls) =
      updateLsRefs row a ((loadLsRefs row.externalIds).set name (n + 1)) := by
  have hl : (a.isSync && ls.loadBalancer.contains row.uuid) = false := by
    rw [ha.isSync, Bool.true_and]
    exact Bool.eq_false_iff.mpr fun h => hlink (List.contains_iff_mem.mp h)
  simp only [lsCommands, hl, Bool.false_eq_true, if_false, ha.associate, if_true, hn]

theorem lsCommands_new (ha : a.Syncs env name) (hlink : row.uuid ∉ ls.loadBalancer)
    (hn : (loadLsRefs row.externalIds).get? name = none) :
    lsCommands row a (some name) (some ls) =
      (updateLsRefs row a ((loadLsRefs row.externalIds).set name (1 + a.additional row))).map
        (.lsLbAdd (.uuid ls.uuid) row.uuid :: ·) := by
  have hl : (a.isSync && ls.loadBalancer.contains row.uuid) = false := by
    rw [ha.isSync, Bool.true_and]
    exact Bool.eq_false_iff.mpr fun h => hlink (List.contains_iff_mem.mp h)
  simp only [lsCommands, hl, Bool.false_eq_true, if_false, ha.associate, if_true, hn]
  rfl

/-- The row is linked to the switch and counts it, with the counts it had, and another
association changes nothing. -/
structure LinkSynced (env : Env) (a : LsAssociation) (name : Str) (row : LoadBalancer) (nb : Nb) :
    Prop where
  link : ∃ ls, nb.switch? (.name name) = some ls ∧ row.uuid ∈ ls.loadBalancer
  counts : ∃ row', nb.lb? row.uuid = some row' ∧ name ∈ (loadLsRefs row'.externalIds).keys ∧
    ∀ m n, (loadLsRefs row.externalIds).get? m = some n →
      (loadLsRefs row'.externalIds).get? m = some n
  again : (updateLbToLsAssociation env row a).run Nb.apply nb = (.ok (), nb)

/-- The association in sync mode repairs the link of the row and the switch. -/
def SyncsLink (env : Env) (a : LsAssociation) (name : Str) (row : LoadBalancer) (nb : Nb) : Prop :=
  ∃ nb', (updateLbToLsAssociation env row a).run Nb.apply nb = (.ok (), nb') ∧
    LinkSynced env a name row nb'

/-- A linked and counted switch is left as it is. -/
theorem run_updateLbToLsAssociation_synced (row : LoadBalancer) (ha : a.Syncs env name)
    (hu : lb.uuid = row.uuid) (hrow : nb.lb? row.uuid = some row)
    (hls : nb.switch? (.name name) = some ls) (hlink : row.uuid ∈ ls.loadBalancer)
    (hcount : name ∈ (loadLsRefs row.externalIds).keys)
    (htext : row.externalIds.get? lbExtIdsLsRefsKey ≠ some []) :
    (updateLbToLsAssociation env lb a).run Nb.apply nb = (.ok (), nb) := by
  have hcs : getLbToLsAssociationCommands env nb lb a = .ok [] := by
    rw [getLbToLsAssociationCommands_eq ha (hu ▸ hrow) hls, lsCommands_linked ha hlink,
      if_pos ((Dict.contains_iff _ _).mpr hcount)]
    exact updateLsRefs_same ha.updateLsRef ha.isSync htext fun _ => Iff.rfl
  exact run_updateLbToLsAssociation hcs rfl

/-- New counts for a linked switch complete the association. -/
theorem linkSynced_counting (ha : a.Syncs env name) (hrow : nb.lb? row.uuid = some row)
    (hls : nb.switch? (.name name) = some ls) (hlink : row.uuid ∈ ls.loadBalancer)
    (hname : name ∉ (loadLsRefs row.externalIds).keys) (n : Nat) :
    LinkSynced env a name row
      (nb.putLb (row.counting ((loadLsRefs row.externalIds).set name n))) := by
  have hput := Nb.lb?_putLb (row.counting ((loadLsRefs row.externalIds).set name n)) hrow
  have hcount : name ∈ (loadLsRefs (row.counting
      ((loadLsRefs row.externalIds).set name n)).externalIds).keys := by
    rw [LoadBalancer.loadLsRefs_counting, Dict.mem_keys_set]
    exact .inl rfl
  have htext : (row.counting ((loadLsRefs row.externalIds).set name n)).externalIds.get?
      lbExtIdsLsRefsKey ≠ some [] := by
    intro h
    have hread := LoadBalancer.loadLsRefs_counting row ((loadLsRefs row.externalIds).set name n)
    rw [loadLsRefs, h] at hread
    rw [LoadBalancer.loadLsRefs_counting, ← hread] at hcount
    cases hcount
  refine ⟨⟨ls, hls, hlink⟩, ⟨_, hput, hcount, fun m k hm => ?_⟩,
    run_updateLbToLsAssociation_synced (row.counting ((loadLsRefs row.externalIds).set name n))
      ha rfl hput hls hlink hcount htext⟩
  have hne : m ≠ name := fun he => hname (he ▸ Dict.mem_keys_of_get? hm)
  rw [LoadBalancer.loadLsRefs_counting, Dict.get?_set_of_ne _ _ hne, hm]

/-- The link is repaired unless the switch is counted without it; an empty text for
the counts raises. -/
theorem syncsLink_iff (ha : a.Syncs env name) (hw : nb.WellFormed) (hd : nb.DistinctSwitches)
    (hrow : nb.lb? row.uuid = some row) (hls : nb.switch? (.name name) = some ls) :
    SyncsLink env a name row nb ↔
      (row.uuid ∈ ls.loadBalancer ∨ name ∉ (loadLsRefs row.externalIds).keys) ∧
        row.externalIds.get? lbExtIdsLsRefsKey ≠ some [] := by
  have heq := getLbToLsAssociationCommands_eq ha hrow hls
  by_cases htext : row.externalIds.get? lbExtIdsLsRefsKey = some []
  · refine iff_of_false ?_ fun h => h.2 htext
    rintro ⟨nb', hrun, -⟩
    have hcs : getLbToLsAssociationCommands env nb row a = .error .attributeError := by
      have hempty := updateLsRefs_empty ha.updateLsRef ha.isSync htext
      rw [heq]
      by_cases hlink : row.uuid ∈ ls.loadBalancer
      · rw [lsCommands_linked ha hlink, hempty]
      · cases hn : (loadLsRefs row.externalIds).get? name with
        | none =>
            rw [lsCommands_new ha hlink hn, hempty]
            rfl
        | some n => rw [lsCommands_counted ha hlink hn, hempty]
    rw [run_updateLbToLsAssociation_error hcs] at hrun
    cases hrun
  · by_cases hlink : row.uuid ∈ ls.loadBalancer
    · refine iff_of_true ?_ ⟨.inl hlink, htext⟩
      by_cases hcount : name ∈ (loadLsRefs row.externalIds).keys
      · have hrun := run_updateLbToLsAssociation_synced row ha rfl hrow hls hlink hcount htext
        exact ⟨nb, hrun, ⟨ls, hls, hlink⟩, ⟨row, hrow, hcount, fun _ _ h => h⟩, hrun⟩
      · refine ⟨_, run_updateLbToLsAssociation ?_ (transact_setLsRefs hw hrow _),
          linkSynced_counting ha hrow hls hlink hcount 1⟩
        rw [heq, lsCommands_linked ha hlink, if_neg fun h => hcount ((Dict.contains_iff _ _).mp h)]
        exact updateLsRefs_new ha.updateLsRef ha.isSync htext hcount 1
    · cases hn : (loadLsRefs row.externalIds).get? name with
      | some n =>
          -- the counts are raised in memory only
          have hcs : getLbToLsAssociationCommands env nb row a = .ok [] := by
            rw [heq, lsCommands_counted ha hlink hn]
            refine updateLsRefs_same ha.updateLsRef ha.isSync htext fun k => ?_
            rw [Dict.mem_keys_set]
            exact ⟨fun h => h.elim (· ▸ Dict.mem_keys_of_get? hn) id, .inr⟩
          refine iff_of_false ?_ fun h => h.1.elim hlink fun h => h (Dict.mem_keys_of_get? hn)
          rintro ⟨nb', hrun, hsynced⟩
          rw [run_updateLbToLsAssociation hcs rfl] at hrun
          cases hrun
          obtain ⟨ls', hls', hlink'⟩ := hsynced.link
          rw [hls] at hls'
          cases hls'
          exact hlink hlink'
      | none =>
          have hname := (Dict.get?_eq_none_iff _ _).mp hn
          refine iff_of_true ?_ ⟨.inr hname, htext⟩
          have hw' : (nb.linkSwitch ls.uuid row.uuid).WellFormed := ⟨hw.nodup, hw.lt_next⟩
          obtain ⟨ls', hls'⟩ : ∃ ls', (nb.linkSwitch ls.uuid row.uuid).switch? (.name name) =
              some ls' := by
            rw [Nb.switch?_linkSwitch, hls]
            exact ⟨_, rfl⟩
          have hcs : getLbToLsAssociationCommands env nb row a =
              .ok [.lsLbAdd (.uuid ls.uuid) row.uuid, setLsRefs row
                ((loadLsRefs row.externalIds).set name (1 + a.additional row))] := by
            rw [heq, lsCommands_new ha hlink hn,
              updateLsRefs_new ha.updateLsRef ha.isSync htext hname]
            rfl
          have hrow' : (nb.linkSwitch ls.uuid row.uuid).lb? row.uuid = some row := hrow
          have ht : Prog.transact Nb.apply [.lsLbAdd (.uuid ls.uuid) row.uuid, setLsRefs row
              ((loadLsRefs row.externalIds).set name (1 + a.additional row))] nb =
              .ok ((nb.linkSwitch ls.uuid row.uuid).putLb (row.counting
                ((loadLsRefs row.externalIds).set name (1 + a.additional row)))) := by
            rw [Prog.transact_cons, Nb.apply_lsLbAdd (hd.switch? (Nb.switch?_name_eq_some hls).1)
              hrow]
            exact transact_setLsRefs hw' hrow' _
          exact ⟨_, run_updateLbToLsAssociation hcs ht,
            linkSynced_counting ha hrow' hls' (Nb.linkedTo_link hls ls' hls') hname _⟩

end Links

section Example

def exampleSync : LsAssociation := { networkId := some (exampleId 'd'), isSync := true }

theorem syncs_exampleSync : exampleSync.Syncs exampleEnv (ovnName (exampleId 'd')) :=
  ⟨rfl, rfl, rfl, rfl⟩

def exampleUncountedRow : LoadBalancer :=
  { uuid := 3, name := exampleId 'a', protocol := some .tcp, vips := ∅, externalIds := ∅,
    options := ∅, selectionFields := [], healthCheck := [], ipPortMappings := ∅ }

/-- The row with one member's count for the switch. -/
def exampleCountedRow : LoadBalancer :=
  exampleUncountedRow.counting (Dict.single (ovnName (exampleId 'd')) 1)

/-- A row beside the switch of the counts, which is not linked to it. -/
def exampleUnlinked (row : LoadBalancer) : Nb := { exampleTenantNb with
  loadBalancers := [row], nextUuid := 4 }

theorem syncsLink_iff_example :
    SyncsLink exampleEnv exampleSync (ovnName (exampleId 'd')) exampleUncountedRow
      (exampleUnlinked exampleUncountedRow) := by
  have hw : (exampleUnlinked exampleUncountedRow).WellFormed :=
    ⟨List.nodup_singleton 3, by decide⟩
  exact (syncsLink_iff syncs_exampleSync hw (List.nodup_singleton 1) rfl rfl).mpr
    ⟨.inr (by decide), by decide⟩

/-- The counted switch stays unlinked. -/
theorem not_syncsLink_exampleCounted :
    ¬ SyncsLink exampleEnv exampleSync (ovnName (exampleId 'd')) exampleCountedRow
      (exampleUnlinked exampleCountedRow) := by
  rintro ⟨nb', hrun, ⟨ls, hls, hlink⟩, -, -⟩
  have hsame : (updateLbToLsAssociation exampleEnv exampleCountedRow exampleSync).run Nb.apply
      (exampleUnlinked exampleCountedRow) = (.ok (), exampleUnlinked exampleCountedRow) := by
    decide +kernel
  rw [hsame] at hrun
  cases hrun
  cases hls
  cases hlink

end Example

end OvnOctavia

import OvnOctavia.Effects

/-!
Counting members on networks, and linking switches. A row counts a network once more
or once less in one commit, which links the switch of the network the first time and
unlinks it the last time.
-/

namespace OvnOctavia

section Members
variable (net : Str → Str) (n : Str)

/-- A pool item is a member on the network `n`; `net` tells the network of a subnet. -/
def onNetwork (item : Str) : Bool :=
  match extractMember item with
  | .ok d => net d.subnet = n
  | .error _ => false

/-- The members on the network in one binding of a row. -/
def countIn (b : Str × Str) : Nat :=
  if Str.startsWith lbExtIdsPoolPrefix b.1 then (poolItems b.2).countP (onNetwork net n) else 0

/-- The members of a row on the network `n`. -/
def memberCount (e : Dict Str Str) : Nat := (e.items.map (countIn net n)).sum

variable {net n} {e : Dict Str Str} {k value : Str}

theorem countIn_of_other (hk : Str.startsWith lbExtIdsPoolPrefix k = false) (v : Str) :
    countIn net n (k, v) = 0 := by
  rw [countIn, hk]
  rfl

theorem countIn_poolKey (id : Str) (up : Bool) (v : Str) :
    countIn net n (getPoolKey id up, v) = (poolItems v).countP (onNetwork net n) := by
  have hk : Str.startsWith lbExtIdsPoolPrefix (getPoolKey id up) = true := by
    rw [getPoolKey, List.append_assoc]
    exact Str.startsWith_append ..
  rw [countIn, if_pos hk]

theorem memberCount_set_of_other (hk : Str.startsWith lbExtIdsPoolPrefix k = false) (v : Str) :
    memberCount net n (e.set k v) = memberCount net n e :=
  Dict.sum_set_of_zero _ v (countIn_of_other hk)

theorem memberCount_erase_of_other (hk : Str.startsWith lbExtIdsPoolPrefix k = false) :
    memberCount net n (e.erase k) = memberCount net n e :=
  Dict.sum_erase_of_zero _ (countIn_of_other hk)

theorem onNetwork_nil : onNetwork net n [] = false := rfl

/-- A text written from items is read back with the same members. -/
theorem countP_poolItems_join {items : List Str} (hc : ∀ s ∈ items, ',' ∉ s) :
    (poolItems (Str.join ',' items)).countP (onNetwork net n) =
      items.countP (onNetwork net n) := by
  by_cases hnil : items = []
  · subst hnil
    rfl
  · have hsplit := Str.splitOn_join hc hnil
    by_cases hj : Str.join ',' items = []
    · rw [hj, List.splitOn_nil] at hsplit
      rw [hj, ← hsplit, poolItems, if_pos rfl]
      simp [onNetwork_nil]
    · rw [poolItems, if_neg hj, hsplit]

theorem comma_notMem_poolItems {v s : Str} (h : s ∈ poolItems v) : ',' ∉ s := by
  unfold poolItems at h
  split at h
  · cases h
  · exact Str.notMem_of_mem_splitOn h

end Members

section Switches
variable {nb nb' : Nb} {ls : LogicalSwitch} {u w : Nat} {x : Str}

theorem Nb.switch?_name_eq_some (h : nb.switch? (.name x) = some ls) :
    ls ∈ nb.switches ∧ ls.name = x :=
  ⟨List.mem_of_find?_eq_some h, by simpa using List.find?_some h⟩

/-- Switches are told apart by their row identifiers. -/
def Nb.DistinctSwitches (nb : Nb) : Prop := (nb.switches.map LogicalSwitch.uuid).Nodup

theorem Nb.DistinctSwitches.switch? (hd : nb.DistinctSwitches) (h : ls ∈ nb.switches) :
    nb.switch? (.uuid ls.uuid) = some ls := by
  unfold Nb.DistinctSwitches at hd
  simp only [Nb.switch?]
  generalize nb.switches = l at hd h
  induction l with
  | nil => cases h
  | cons a l ih =>
      rw [List.map_cons, List.nodup_cons] at hd
      rcases List.mem_cons.mp h with rfl | h
      · simp
      · have hne : a.uuid ≠ ls.uuid := fun e => hd.1 (e ▸ List.mem_map_of_mem h)
        simp [hne, ih hd.2 h]

theorem Nb.DistinctSwitches.eq (hd : nb.DistinctSwitches) {ls' : LogicalSwitch}
    (h : ls ∈ nb.switches) (h' : ls' ∈ nb.switches) (hu : ls.uuid = ls'.uuid) : ls = ls' := by
  have := hd.switch? h
  rw [hu, hd.switch? h'] at this
  exact (Option.some.inj this).symm

theorem Nb.SameTopology.distinctSwitches (h : nb.SameTopology nb') (hd : nb.DistinctSwitches) :
    nb'.DistinctSwitches := by
  have huuid : ∀ l : List LogicalSwitch, l.map LogicalSwitch.uuid =
      (l.map LogicalSwitch.bare).map LogicalSwitch.uuid := by
    intro l
    rw [List.map_map]
    rfl
  unfold Nb.DistinctSwitches at hd ⊢
  rwa [huuid, h.switches, ← huuid]

theorem Nb.SameTopology.switch? (h : nb.SameTopology nb') (x : Str) :
    (nb'.switch? (.name x)).map LogicalSwitch.bare =
      (nb.switch? (.name x)).map LogicalSwitch.bare := by
  have hfind : ∀ nb : Nb, (nb.switch? (.name x)).map LogicalSwitch.bare =
      (nb.switches.map LogicalSwitch.bare).find? (·.name = x) := by
    intro nb
    rw [List.find?_map]
    rfl
  rw [hfind, hfind, h.switches]

theorem Nb.SameTopology.isSome_switch? (h : nb.SameTopology nb') (x : Str) :
    (nb'.switch? (.name x)).isSome = (nb.switch? (.name x)).isSome := by
  have := congrArg Option.isSome (h.switch? x)
  rwa [Option.isSome_map, Option.isSome_map] at this

theorem Nb.switch?_updateSwitch {f : LogicalSwitch → LogicalSwitch}
    (hname : ∀ ls, (f ls).name = ls.name) :
    (nb.updateSwitch w f).switch? (.name x) =
      (nb.switch? (.name x)).map fun ls => if ls.uuid = w then f ls else ls := by
  have hn : ∀ ls : LogicalSwitch, (if ls.uuid = w then f ls else ls).name = ls.name := by
    intro ls
    split
    · exact hname ls
    · rfl
  simp only [Nb.switch?, Nb.updateSwitch, List.find?_map]
  congr 2
  funext ls
  simp [hn]

/-- The switch of the name, if there is one, is linked to the row `u`. -/
def Nb.LinkedTo (u : Nat) (x : Str) (nb : Nb) : Prop :=
  ∀ ls, nb.switch? (.name x) = some ls → u ∈ ls.loadBalancer

theorem Nb.LinkedTo.of_switches (h : nb.LinkedTo u x) (hs : nb'.switches = nb.switches) :
    nb'.LinkedTo u x := by
  intro ls hls
  refine h ls ?_
  rw [← hls, Nb.switch?, Nb.switch?, hs]

/-- `ls_lb_add`, done. -/
def Nb.linkSwitch (nb : Nb) (w u : Nat) : Nb :=
  nb.updateSwitch w fun ls =>
    { ls with loadBalancer := if u ∈ ls.loadBalancer then ls.loadBalancer
                              else ls.loadBalancer ++ [u] }

/-- `ls_lb_del`, done. -/
def Nb.unlinkSwitch (nb : Nb) (w u : Nat) : Nb :=
  nb.updateSwitch w fun ls => { ls with loadBalancer := ls.loadBalancer.filter (· ≠ u) }

theorem Nb.switch?_linkSwitch (nb : Nb) (w u : Nat) (x : Str) :
    (nb.linkSwitch w u).switch? (.name x) =
      (nb.switch? (.name x)).map fun ls =>
        if ls.uuid = w then
          { ls with loadBalancer := if u ∈ ls.loadBalancer then ls.loadBalancer
                                    else ls.loadBalancer ++ [u] }
        else ls :=
  Nb.switch?_updateSwitch fun _ => rfl

theorem Nb.switch?_unlinkSwitch (nb : Nb) (w u : Nat) (x : Str) :
    (nb.unlinkSwitch w u).switch? (.name x) =
      (nb.switch? (.name x)).map fun ls =>
        if ls.uuid = w then { ls with loadBalancer := ls.loadBalancer.filter (· ≠ u) } else ls :=
  Nb.switch?_updateSwitch fun _ => rfl

theorem Nb.LinkedTo.link (h : nb.LinkedTo u x) (w v : Nat) : (nb.linkSwitch w v).LinkedTo u x := by
  intro ls hls
  rw [Nb.switch?_linkSwitch, Option.map_eq_some_iff] at hls
  obtain ⟨old, hold, rfl⟩ := hls
  have := h old hold
  split
  · dsimp only
    split
    · exact this
    · exact List.mem_append_left _ this
  · exact this

theorem Nb.linkedTo_link (h : nb.switch? (.name x) = some ls) :
    (nb.linkSwitch ls.uuid u).LinkedTo u x := by
  intro ls' hls'
  rw [Nb.switch?_linkSwitch, h, Option.map_some, if_pos rfl] at hls'
  cases hls'
  dsimp only
  split
  · assumption
  · exact List.mem_append_right _ (List.mem_singleton_self u)

/-- Unlinking the switch of another name. -/
theorem Nb.LinkedTo.unlink (h : nb.LinkedTo u x) (hd : nb.DistinctSwitches)
    {y : Str} (hls : nb.switch? (.name y) = some ls) (hne : x ≠ y) (v : Nat) :
    (nb.unlinkSwitch ls.uuid v).LinkedTo u x := by
  intro ls' hls'
  rw [Nb.switch?_unlinkSwitch, Option.map_eq_some_iff] at hls'
  obtain ⟨old, hold, rfl⟩ := hls'
  obtain ⟨hm, hname⟩ := Nb.switch?_name_eq_some hold
  obtain ⟨hm', hname'⟩ := Nb.switch?_name_eq_some hls
  have hu : old.uuid ≠ ls.uuid := by
    intro he
    exact hne (by rw [← hname, ← hname', hd.eq hm hm' he])
  rw [if_neg hu]
  exact h old hold

/-- Unlinking another row. -/
theorem Nb.LinkedTo.unlink_other (h : nb.LinkedTo u x) {v : Nat} (hne : u ≠ v) (w : Nat) :
    (nb.unlinkSwitch w v).LinkedTo u x := by
  intro ls' hls'
  rw [Nb.switch?_unlinkSwitch, Option.map_eq_some_iff] at hls'
  obtain ⟨old, hold, rfl⟩ := hls'
  have := h old hold
  split
  · simp [this, hne]
  · exact this

theorem Nb.sameTopology_linkSwitch (nb : Nb) (w u : Nat) : nb.SameTopology (nb.linkSwitch w u) :=
  ⟨map_updateSwitch nb _ fun _ _ => rfl, rfl⟩

theorem Nb.sameTopology_unlinkSwitch (nb : Nb) (w u : Nat) :
    nb.SameTopology (nb.unlinkSwitch w u) :=
  ⟨map_updateSwitch nb _ fun _ _ => rfl, rfl⟩

theorem Nb.apply_lsLbAdd {row : LoadBalancer} {ref : SwitchRef} (hls : nb.switch? ref = some ls)
    (hrow : nb.lb? u = some row) :
    Nb.apply (.lsLbAdd ref u) nb = .ok (nb.linkSwitch ls.uuid u) := by
  simp only [Nb.apply, hls, hrow]
  rfl

end Switches

section Counts
variable {row : LoadBalancer} {total : Str → Nat} {nb nb₁ : Nb} {n : Str} {ls : LogicalSwitch}
  {a : LsAssociation}

/-- The row with new counts. -/
def LoadBalancer.counting (row : LoadBalancer) (refs : Dict Str Nat) : LoadBalancer :=
  { row with externalIds := row.externalIds.set lbExtIdsLsRefsKey (Json.dumpsCounts refs) }

@[simp] theorem LoadBalancer.loadLsRefs_counting (row : LoadBalancer) (refs : Dict Str Nat) :
    loadLsRefs (row.counting refs).externalIds = refs := by
  obtain ⟨t, ht⟩ : ∃ t, Json.dumpsCounts refs = '{' :: t := by
    unfold Json.dumpsCounts
    cases refs.items with
    | nil => exact ⟨_, rfl⟩
    | cons b bs => exact ⟨_, rfl⟩
  have hread := Json.loadsCounts_dumpsCounts refs
  rw [ht] at hread
  simp only [loadLsRefs, counting, Dict.get?_set_self, ht, hread, Option.getD_some]

/-- The counts of the row are `total`, and the switches of the counted networks are
linked to it. -/
structure Refs (row : LoadBalancer) (total : Str → Nat) (nb : Nb) : Prop where
  counts : ∀ n, IsUuid n → (loadLsRefs row.externalIds).get? (ovnName n) =
    if total n = 0 then none else some (total n)
  links : ∀ n, IsUuid n → total n ≠ 0 → nb.LinkedTo row.uuid (ovnName n)

theorem ovnName_inj {m : Str} (hm : IsUuid m) (hn : IsUuid n) (h : ovnName m = ovnName n) :
    m = n := by
  rw [ovnName_of_isUuid hm, ovnName_of_isUuid hn] at h
  exact List.append_cancel_left h

/-- The additional VIPs that an association counts. -/
def LsAssociation.additional (a : LsAssociation) (row : LoadBalancer) : Nat :=
  if a.additionalVips then
    match row.externalIds.get? lbExtIdsAdditVipKey with
    | some (c :: vips) => ((c :: vips).splitOn ',').length
    | _ => 0
  else 0

/-- A commit that counts on one row and links or unlinks one switch. -/
structure Counts (row : LoadBalancer) (nb : Nb) (cs : List Command) (total : Str → Nat)
    (refs : Dict Str Nat) (nb₁ : Nb) : Prop where
  ne_nil : cs ≠ []
  done : Prog.transact Nb.apply cs nb = .ok (nb₁.putLb (row.counting refs))
  rows : nb₁.loadBalancers = nb.loadBalancers
  next : nb₁.nextUuid = nb.nextUuid
  topology : nb.SameTopology nb₁
  routers : nb₁.routers = nb.routers
  refs : Refs (row.counting refs) total (nb₁.putLb (row.counting refs))

theorem transact_setLsRefs (hw : nb.WellFormed) (hrow : nb.lb? row.uuid = some row)
    (refs : Dict Str Nat) :
    Prog.transact Nb.apply [setLsRefs row refs] nb = .ok (nb.putLb (row.counting refs)) := by
  have h := Nb.transact_row hw hrow
    [.setExternalIds (.single lbExtIdsLsRefsKey (Json.dumpsCounts refs))] rfl
  rw [List.map_singleton, List.foldl_cons, List.foldl_nil, LbOp.apply, Dict.update_single] at h
  exact h

theorem Refs.congr {total' : Str → Nat} (h : Refs row total nb)
    (ht : ∀ n, IsUuid n → total' n = total n) : Refs row total' nb where
  counts := fun n hn => by rw [ht n hn]; exact h.counts n hn
  links := fun n hn hne => h.links n hn (ht n hn ▸ hne)

/-- A network is counted once more; the first time its switch is linked. -/
theorem Refs.join (hr : Refs row total nb) (hw : nb.WellFormed) (hd : nb.DistinctSwitches)
    (hrow : nb.lb? row.uuid = some row) (hn : IsUuid n)
    (hls : nb.switch? (.name (ovnName n)) = some ls) (hassoc : a.associate = true)
    (hupdate : a.updateLsRef = true) (hsync : a.isSync = false) :
    ∃ cs refs nb₁, lsCommands row a (some (ovnName n)) (some ls) = .ok cs ∧
      Counts row nb cs (fun m => if m = n then
        (if total n = 0 then 1 + a.additional row else total n + 1) else total m) refs nb₁ ∧
      ∀ u x, nb.LinkedTo u x → nb₁.LinkedTo u x := by
  have hcount := hr.counts n hn
  have hupd : ∀ refs, updateLsRefs row a refs = .ok [setLsRefs row refs] := by
    intro refs
    simp [updateLsRefs, hupdate, hsync]
  have hrefs : ∀ (k : Nat) (nb₁ : Nb), k ≠ 0 →
      (∀ m, IsUuid m → m ≠ n → total m ≠ 0 → nb₁.LinkedTo row.uuid (ovnName m)) →
      nb₁.LinkedTo row.uuid (ovnName n) →
      Refs (row.counting ((loadLsRefs row.externalIds).set (ovnName n) k))
        (fun m => if m = n then k else total m) (nb₁.putLb
          (row.counting ((loadLsRefs row.externalIds).set (ovnName n) k))) := by
    intro k nb₁ hk hlinks hlink
    refine ⟨fun m hm => ?_, fun m hm hne => ?_⟩
    · rw [LoadBalancer.loadLsRefs_counting]
      by_cases he : m = n
      · rw [he, Dict.get?_set_self, if_pos rfl, if_neg hk]
      · rw [Dict.get?_set_of_ne _ _ fun h => he (ovnName_inj hm hn h), if_neg he]
        exact hr.counts m hm
    · by_cases he : m = n
      · subst he
        exact hlink.of_switches rfl
      · rw [if_neg he] at hne
        exact (hlinks m hm he hne).of_switches rfl
  by_cases hzero : total n = 0
  · rw [if_pos hzero] at hcount
    refine ⟨[.lsLbAdd (.uuid ls.uuid) row.uuid, setLsRefs row
      ((loadLsRefs row.externalIds).set (ovnName n) (1 + a.additional row))],
      (loadLsRefs row.externalIds).set (ovnName n) (1 + a.additional row),
      nb.linkSwitch ls.uuid row.uuid, ?_, ⟨by simp, ?_, rfl, rfl,
      nb.sameTopology_linkSwitch ls.uuid row.uuid, rfl, ?_⟩, fun u x hx => hx.link _ _⟩
    · simp only [lsCommands, hsync, Bool.false_and, Bool.false_eq_true, if_false, hassoc, if_true,
        hcount, hupd, Except.map]
      rfl
    · have hw' : (nb.linkSwitch ls.uuid row.uuid).WellFormed := ⟨hw.nodup, hw.lt_next⟩
      rw [Prog.transact_cons, Nb.apply_lsLbAdd (hd.switch? (Nb.switch?_name_eq_some hls).1) hrow]
      exact transact_setLsRefs hw' hrow _
    · rw [if_pos hzero]
      exact hrefs _ _ (by omega) (fun m hm _ hne => (hr.links m hm hne).link _ _)
        (Nb.linkedTo_link hls)
  · rw [if_neg hzero] at hcount
    refine ⟨[setLsRefs row ((loadLsRefs row.externalIds).set (ovnName n) (total n + 1))], _, nb,
      ?_, ⟨by simp, transact_setLsRefs hw hrow _, rfl, rfl, .refl nb, rfl, ?_⟩, fun _ _ hx => hx⟩
    · simp only [lsCommands, hsync, Bool.false_and, Bool.false_eq_true, if_false, hassoc, if_true,
        hcount, hupd]
    · rw [if_neg hzero]
      exact hrefs _ _ (by omega) (fun m hm _ hne => hr.links m hm hne) (hr.links n hn hzero)

/-- A network is counted once less; the last time its switch is unlinked. -/
theorem Refs.leave (hr : Refs row total nb) (hw : nb.WellFormed) (hd : nb.DistinctSwitches)
    (hrow : nb.lb? row.uuid = some row) (hn : IsUuid n)
    (hls : nb.switch? (.name (ovnName n)) = some ls) (hassoc : a.associate = false)
    (hupdate : a.updateLsRef = true) (hsync : a.isSync = false) (hpos : total n ≠ 0) :
    ∃ cs refs nb₁, lsCommands row a (some (ovnName n)) (some ls) = .ok cs ∧
      Counts row nb cs (fun m => if m = n then total n - 1 else total m) refs nb₁ ∧
      ∀ u x, nb.LinkedTo u x → (u = row.uuid → x = ovnName n → total n ≠ 1) →
        nb₁.LinkedTo u x := by
  have hcount := hr.counts n hn
  rw [if_neg hpos] at hcount
  have hupd : ∀ refs, updateLsRefs row a refs = .ok [setLsRefs row refs] := by
    intro refs
    simp [updateLsRefs, hupdate, hsync]
  by_cases hone : total n = 1
  · rw [hone] at hcount
    refine ⟨[.lsLbDel (.uuid ls.uuid) row.uuid true, setLsRefs row
      ((loadLsRefs row.externalIds).erase (ovnName n))],
      (loadLsRefs row.externalIds).erase (ovnName n), nb.unlinkSwitch ls.uuid row.uuid,
      ?_, ⟨by simp, ?_, rfl, rfl, nb.sameTopology_unlinkSwitch ls.uuid row.uuid, rfl, ?_⟩,
      fun u x hx hne => ?_⟩
    · simp only [lsCommands, hsync, Bool.false_and, Bool.false_eq_true, if_false, hassoc, if_true,
        hcount, hupd, Except.map]
    · have hdel : Nb.apply (.lsLbDel (.uuid ls.uuid) row.uuid true) nb =
          .ok (nb.unlinkSwitch ls.uuid row.uuid) := by
        simp only [Nb.apply, hd.switch? (Nb.switch?_name_eq_some hls).1, or_true, if_true]
        rfl
      have hw' : (nb.unlinkSwitch ls.uuid row.uuid).WellFormed := ⟨hw.nodup, hw.lt_next⟩
      rw [Prog.transact_cons, hdel]
      exact transact_setLsRefs hw' hrow _
    · refine ⟨fun m hm => ?_, fun m hm hne => ?_⟩
      · rw [LoadBalancer.loadLsRefs_counting]
        by_cases he : m = n
        · simp [he, hone]
        · rw [Dict.get?_erase_of_ne _ fun h => he (ovnName_inj hm hn h), if_neg he]
          exact hr.counts m hm
      · have he : m ≠ n := by
          rintro rfl
          simp [hone] at hne
        rw [if_neg he] at hne
        exact ((hr.links m hm hne).unlink hd hls (fun h => he (ovnName_inj hm hn h))
          row.uuid).of_switches rfl
    · by_cases hu : u = row.uuid
      · exact hx.unlink hd hls (fun he => hne hu he hone) _
      · exact hx.unlink_other hu _
  · refine ⟨[setLsRefs row ((loadLsRefs row.externalIds).set (ovnName n) (total n - 1))],
      (loadLsRefs row.externalIds).set (ovnName n) (total n - 1), nb,
      ?_, ⟨by simp, transact_setLsRefs hw hrow _, rfl, rfl, .refl nb, rfl, ?_⟩,
      fun _ _ hx _ => hx⟩
    · simp only [lsCommands, hsync, Bool.false_and, Bool.false_eq_true, if_false, hassoc,
        hcount, hone, hupd]
    · refine ⟨fun m hm => ?_, fun m hm hne => ?_⟩
      · rw [LoadBalancer.loadLsRefs_counting]
        by_cases he : m = n
        · rw [he, Dict.get?_set_self, if_pos rfl, if_neg (by omega)]
        · rw [Dict.get?_set_of_ne _ _ fun h => he (ovnName_inj hm hn h), if_neg he]
          exact hr.counts m hm
      · by_cases he : m = n
        · rw [he]
          exact (hr.links n hn hpos).of_switches rfl
        · rw [if_neg he] at hne
          exact (hr.links m hm hne).of_switches rfl

end Counts

end OvnOctavia

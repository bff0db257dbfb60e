import OvnOctavia.RouterLinks
import OvnOctavia.SyncedLinks

/-!
The routers named in a row and those linked to it. The names stand in one text, which
is added to at its end, and taken apart for a removal; a name is looked up in it as a
part of the text.
-/

namespace OvnOctavia

section Names

/-- A router name that can be listed. No list at all is read as the text `None`. -/
structure IsRefName (name : Str) : Prop where
  comma : ',' ∉ name
  stripped : strip name = name
  unlisted : ¬ name <:+: "None".toList

theorem IsRefName.ne_nil {name : Str} (h : IsRefName name) : name ≠ [] := by
  intro hn
  exact h.unlisted (hn ▸ List.nil_infix)

/-- The text of a list of names. -/
def refText (names : List Str) : Option Str :=
  if names = [] then none else some (Str.join ',' names)

variable {names : List Str} {name : Str}

theorem refText_cons_ne_nil (h : ∀ n ∈ names, IsRefName n) (hne : names ≠ []) :
    ∃ c t, refText names = some (c :: t) ∧ (c :: t).splitOn ',' = names := by
  have hj : Str.join ',' names ≠ [] := fun he =>
    hne ((Str.join_eq_nil_iff fun n hn => (h n hn).ne_nil).mp he)
  obtain ⟨c, t, ht⟩ := List.exists_cons_of_ne_nil hj
  refine ⟨c, t, ?_, ?_⟩
  · rw [refText, if_neg hne, ht]
  · rw [← ht]
    exact Str.splitOn_join (fun n hn => (h n hn).comma) hne

/-- Names that are not part of one another are found where they are listed. -/
theorem contains_refText (h : ∀ n ∈ names, IsRefName n) (hname : IsRefName name)
    (hapart : ∀ n ∈ names, name <:+: n → n = name) :
    Str.contains name ((refText names).getD "None".toList) = true ↔ name ∈ names := by
  rw [Str.contains_iff]
  by_cases hne : names = []
  · subst hne
    exact iff_of_false hname.unlisted List.not_mem_nil
  · rw [refText, if_neg hne, Option.getD_some, Str.infix_join_iff hname.comma hname.ne_nil]
    refine ⟨fun ⟨n, hn, hi⟩ => hapart n hn hi ▸ hn, fun hn => ⟨name, hn, List.infix_refl name⟩⟩

theorem refText_append (h : ∀ n ∈ names, IsRefName n) {e : Dict Str Str}
    (he : e.get? lbExtIdsLrRefKey = refText names) :
    refText (names ++ [name]) = some (lrRefWith e name) := by
  rw [refText, if_neg (by simp), lrRefWith, he]
  by_cases hne : names = []
  · subst hne
    exact congrArg some (Str.join_singleton ',' name)
  · obtain ⟨c, t, ht, -⟩ := refText_cons_ne_nil h hne
    rw [ht, Str.join_append_singleton _ _ _ hne]
    rw [refText, if_neg hne, Option.some.injEq] at ht
    rw [ht]

end Names

section Routers
variable {nb nb' : Nb} {u : Nat}

/-- The names of the routers that are linked to the row `u`. -/
def Nb.linkedRouters (nb : Nb) (u : Nat) : List Str :=
  (nb.routers.filter (u ∈ ·.loadBalancer)).map LogicalRouter.name

theorem Nb.mem_linkedRouters {n : Str} :
    n ∈ nb.linkedRouters u ↔ ∃ lr ∈ nb.routers, u ∈ lr.loadBalancer ∧ lr.name = n := by
  simp [Nb.linkedRouters, and_assoc]

/-- The routers can be listed, and no name is part of another one. -/
structure Nb.RoutersApart (nb : Nb) : Prop where
  uuids : (nb.routers.map LogicalRouter.uuid).Nodup
  listed : ∀ lr ∈ nb.routers, IsRefName lr.name
  apart : ∀ lr ∈ nb.routers, ∀ lr' ∈ nb.routers, lr.name <:+: lr'.name → lr.uuid = lr'.uuid

theorem Nb.RoutersApart.eq (h : nb.RoutersApart) {lr lr' : LogicalRouter} (hm : lr ∈ nb.routers)
    (hm' : lr' ∈ nb.routers) (hu : lr.uuid = lr'.uuid) : lr = lr' :=
  List.inj_on_of_nodup_map h.uuids hm hm' hu

theorem Nb.RoutersApart.of_topology (h : nb.RoutersApart) (ht : nb.SameTopology nb') :
    nb'.RoutersApart := by
  have huuids : ∀ l : List LogicalRouter,
      l.map LogicalRouter.uuid = (l.map LogicalRouter.bare).map LogicalRouter.uuid := by
    intro l
    rw [List.map_map]
    rfl
  have hbare : ∀ {lr lr' : LogicalRouter}, lr.bare = lr'.bare →
      lr.uuid = lr'.uuid ∧ lr.name = lr'.name := by
    intro lr lr' hb
    have hu : lr.bare.uuid = lr'.bare.uuid := congrArg LogicalRouter.uuid hb
    have hn : lr.bare.name = lr'.bare.name := congrArg LogicalRouter.name hb
    exact ⟨hu, hn⟩
  refine ⟨?_, fun lr' hm => ?_, fun lr' hm lr'' hm' hi => ?_⟩
  · rw [huuids, ht.routers, ← huuids]
    exact h.uuids
  · obtain ⟨lr, hlr, hb⟩ := ht.bare_mem hm
    exact (hbare hb).2 ▸ h.listed lr hlr
  · obtain ⟨a, ha, hb⟩ := ht.bare_mem hm
    obtain ⟨b, hbm, hb'⟩ := ht.bare_mem hm'
    rw [← (hbare hb).1, ← (hbare hb').1]
    refine h.apart a ha b hbm ?_
    rw [(hbare hb).2, (hbare hb').2]
    exact hi

/-- The row lists the routers that are linked to it, each once. -/
structure ListsRouters (u : Nat) (names : List Str) (nb : Nb) : Prop where
  nodup : names.Nodup
  mem : ∀ n, n ∈ names ↔ n ∈ nb.linkedRouters u
  text : ∃ row, nb.lb? u = some row ∧ row.externalIds.get? lbExtIdsLrRefKey = refText names

theorem ListsRouters.listed {names : List Str} (h : ListsRouters u names nb)
    (ha : nb.RoutersApart) : ∀ n ∈ names, IsRefName n := by
  intro n hn
  obtain ⟨lr, hm, -, rfl⟩ := Nb.mem_linkedRouters.mp ((h.mem n).mp hn)
  exact ha.listed lr hm

end Routers

section Commands
variable {nb nb' : Nb} {u : Nat} {cs : List Command} {lr : LogicalRouter}

/-- The commands on switches leave rows and routers alone. -/
theorem transact_isLsLb (hcs : ∀ c ∈ cs, c.isLsLb = true)
    (ht : Prog.transact Nb.apply cs nb = .ok nb') :
    nb'.loadBalancers = nb.loadBalancers ∧ nb'.routers = nb.routers := by
  induction cs generalizing nb with
  | nil =>
      cases ht
      exact ⟨rfl, rfl⟩
  | cons c cs ih =>
      obtain ⟨nb₁, ha, ht⟩ := Except.bind_eq_ok.mp ht
      obtain ⟨hrows, hrouters⟩ := ih (fun d hd => hcs d (List.mem_cons_of_mem _ hd)) ht
      suffices h : nb₁.loadBalancers = nb.loadBalancers ∧ nb₁.routers = nb.routers from
        ⟨hrows.trans h.1, hrouters.trans h.2⟩
      have hc := hcs c List.mem_cons_self
      cases c with
      | lsLbAdd ref v =>
          simp only [Nb.apply] at ha
          split at ha <;> cases ha
          exact ⟨rfl, rfl⟩
      | lsLbDel ref v ifExists =>
          simp only [Nb.apply] at ha
          split at ha
          · split at ha
            · cases ha
              exact ⟨rfl, rfl⟩
            · cases ha
          · cases ha
      | _ => cases hc

/-- `lr_lb_del`, done. -/
def Nb.unlinkRouter (nb : Nb) (r u : Nat) : Nb :=
  nb.updateRouter r fun lr => { lr with loadBalancer := lr.loadBalancer.filter (· ≠ u) }

theorem Nb.mem_linkedRouters_linkRouter (ha : nb.RoutersApart) (hlr : nb.router? lr.uuid = some lr)
    {n : Str} : n ∈ (nb.linkRouter lr.uuid u).linkedRouters u ↔
      n = lr.name ∨ n ∈ nb.linkedRouters u := by
  obtain ⟨hm, -⟩ := Nb.router?_eq_some hlr
  simp only [Nb.mem_linkedRouters, Nb.linkRouter, Nb.updateRouter, List.mem_map]
  constructor
  · rintro ⟨_, ⟨x, hx, rfl⟩, hu, rfl⟩
    by_cases he : x.uuid = lr.uuid
    · rw [if_pos he, ha.eq hx hm he]
      exact .inl rfl
    · rw [if_neg he] at hu ⊢
      exact .inr ⟨x, hx, hu, rfl⟩
  · rintro (rfl | ⟨x, hx, hu, rfl⟩)
    · refine ⟨_, ⟨lr, hm, if_pos rfl⟩, ?_, rfl⟩
      dsimp only
      split
      · assumption
      · exact List.mem_append_right _ (List.mem_singleton_self u)
    · refine ⟨_, ⟨x, hx, rfl⟩, ?_, ?_⟩
      · split
        · exact hu
        · exact hu
      · split <;> rfl

theorem Nb.mem_linkedRouters_unlinkRouter (ha : nb.RoutersApart)
    (hlr : nb.router? lr.uuid = some lr) {n : Str} :
    n ∈ (nb.unlinkRouter lr.uuid u).linkedRouters u ↔
      n ≠ lr.name ∧ n ∈ nb.linkedRouters u := by
  obtain ⟨hm, -⟩ := Nb.router?_eq_some hlr
  simp only [Nb.mem_linkedRouters, Nb.unlinkRouter, Nb.updateRouter, List.mem_map]
  constructor
  · rintro ⟨_, ⟨x, hx, rfl⟩, hu, rfl⟩
    by_cases he : x.uuid = lr.uuid
    · rw [if_pos he] at hu
      simp at hu
    · rw [if_neg he] at hu ⊢
      refine ⟨fun hn => he (ha.apart x hx lr hm ?_), x, hx, hu, rfl⟩
      rw [hn]
  · rintro ⟨hne, x, hx, hu, rfl⟩
    refine ⟨x, ⟨x, hx, if_neg fun he => hne ?_⟩, hu, rfl⟩
    rw [ha.eq hx hm he]

variable {env : Env} {lb row : LoadBalancer} {live : LogicalRouter} {isSync : Bool}
  {names : List Str}

theorem commands_addLr (hrow : nb.lb? lb.uuid = some row) (hlr : nb.router? lr.uuid = some live)
    (hcs : getLbToLrAssociationCommands env nb lb lr false isSync = .ok cs) :
    ∃ sw, (∀ c ∈ sw, Command.isLsLb c = true) ∧
      cs = (if isSync && live.loadBalancer.contains row.uuid then []
          else [.lrLbAdd live.uuid row.uuid]) ++ sw ++
        if Str.contains live.name ((row.externalIds.get? lbExtIdsLrRefKey).getD "None".toList)
        then [] else [.lbUpdate row.uuid (.setExternalIds (.single lbExtIdsLrRefKey
          (lrRefWith row.externalIds live.name)))] := by
  simp only [getLbToLrAssociationCommands, live_of_lb? hrow, hlr, Option.getD_some,
    Bool.false_eq_true, if_false, addLbToLrAssociation] at hcs
  obtain ⟨v, -, hcs⟩ := Except.bind_eq_ok.mp hcs
  obtain ⟨nets, -, hcs⟩ := Except.bind_eq_ok.mp hcs
  cases hcs
  refine ⟨_, fun c hc => ?_, rfl⟩
  obtain ⟨x, -, rfl⟩ := List.mem_map.mp hc
  rfl

theorem commands_delLr (hrow : nb.lb? lb.uuid = some row) (hlr : nb.router? lr.uuid = some live)
    (hnames : ∀ n ∈ names, IsRefName n)
    (htext : row.externalIds.get? lbExtIdsLrRefKey = refText names)
    (hcs : getLbToLrAssociationCommands env nb lb lr true isSync = .ok cs) :
    ∃ sw, (∀ c ∈ sw, Command.isLsLb c = true) ∧
      cs = (if names = [] then [] else
        [match refText (names.filter (· ≠ live.name)) with
          | some text => .lbUpdate row.uuid (.setExternalIds (.single lbExtIdsLrRefKey text))
          | none => .lbUpdate row.uuid (.removeExternalId lbExtIdsLrRefKey),
          .lrLbDel live.uuid row.uuid true]) ++ sw := by
  simp only [getLbToLrAssociationCommands, live_of_lb? hrow, hlr, Option.getD_some, if_true,
    delLbToLrAssociation, htext] at hcs
  obtain ⟨v, -, hcs⟩ := Except.bind_eq_ok.mp hcs
  obtain ⟨nets, -, hcs⟩ := Except.bind_eq_ok.mp hcs
  cases hcs
  refine ⟨_, fun c hc => ?_, congrArg (· ++ _) ?_⟩
  · obtain ⟨x, -, rfl⟩ := List.mem_map.mp hc
    rfl
  · by_cases hne : names = []
    · rw [refText, if_pos hne, if_pos hne]
    · obtain ⟨c, t, ht, hsplit⟩ := refText_cons_ne_nil hnames hne
      have hstrip : names.map strip = names := by
        conv_rhs => rw [← List.map_id names]
        exact List.map_congr_left fun n hn => (hnames n hn).stripped
      rw [ht, if_neg hne]
      dsimp only
      rw [hsplit, hstrip, refText]
      by_cases hrest : names.filter (· ≠ live.name) = []
      · rw [if_neg (not_not.mpr hrest), if_pos hrest]
      · rw [if_pos hrest, if_neg hrest]

/-- An association links the router, and names it unless its name is found. -/
theorem transact_addLr (ha : nb.RoutersApart) (hrow : nb.lb? lb.uuid = some row)
    (hlr : nb.router? lr.uuid = some live)
    (hcs : getLbToLrAssociationCommands env nb lb lr false isSync = .ok cs)
    (ht : Prog.transact Nb.apply cs nb = .ok nb') :
    (∀ n, n ∈ nb'.linkedRouters row.uuid ↔
      n = live.name ∨ n ∈ nb.linkedRouters row.uuid) ∧
    ∃ row', nb'.lb? row.uuid = some row' ∧ row'.externalIds.get? lbExtIdsLrRefKey =
      if Str.contains live.name ((row.externalIds.get? lbExtIdsLrRefKey).getD "None".toList)
      then row.externalIds.get? lbExtIdsLrRefKey
      else some (lrRefWith row.externalIds live.name) := by
  obtain ⟨sw, hsw, rfl⟩ := commands_addLr hrow hlr hcs
  obtain ⟨hm, hr⟩ := Nb.router?_eq_some hlr
  have hu := (Nb.lb?_eq_some hrow).2
  rw [← hu] at hrow
  rw [← hr] at hlr
  rw [Prog.transact_append, Prog.transact_append] at ht
  obtain ⟨nb₂, ht, href⟩ := Except.bind_eq_ok.mp ht
  obtain ⟨nb₁, hlink, hswitch⟩ := Except.bind_eq_ok.mp ht
  obtain ⟨hrows₂, hrouters₂⟩ := transact_isLsLb hsw hswitch
  have hlinked : nb₁.loadBalancers = nb.loadBalancers ∧
      ∀ n, n ∈ nb₁.linkedRouters row.uuid ↔
        n = live.name ∨ n ∈ nb.linkedRouters row.uuid := by
    by_cases hskip : (isSync && live.loadBalancer.contains row.uuid) = true
    · rw [if_pos hskip] at hlink
      cases hlink
      have hmem : row.uuid ∈ live.loadBalancer :=
        List.contains_iff_mem.mp (Bool.and_eq_true_iff.mp hskip).2
      refine ⟨rfl, fun n => ⟨.inr, fun h => h.elim (fun hn => ?_) id⟩⟩
      exact Nb.mem_linkedRouters.mpr ⟨live, hm, hmem, hn.symm⟩
    · have hadd : Nb.apply (.lrLbAdd live.uuid row.uuid) nb =
          .ok (nb.linkRouter live.uuid row.uuid) := by
        simp only [Nb.apply, hlr, hrow]
        rfl
      rw [if_neg hskip, Prog.transact_cons, hadd] at hlink
      cases hlink
      exact ⟨rfl, fun n => Nb.mem_linkedRouters_linkRouter ha hlr⟩
  have hrow₂ : nb₂.lb? row.uuid = some row := by
    rw [Nb.lb?, hrows₂, hlinked.1]
    exact hrow
  have hmem : ∀ n, n ∈ nb₂.linkedRouters row.uuid ↔
      n = live.name ∨ n ∈ nb.linkedRouters row.uuid := by
    intro n
    rw [← hlinked.2 n, Nb.linkedRouters, hrouters₂]
    rfl
  by_cases hin : Str.contains live.name
      ((row.externalIds.get? lbExtIdsLrRefKey).getD "None".toList) = true
  · rw [if_pos hin] at href
    cases href
    exact ⟨hmem, row, hrow₂, (if_pos hin).symm⟩
  · rw [if_neg hin, Prog.transact_cons, Nb.apply_lbUpdate hrow₂] at href
    cases href
    refine ⟨hmem, ?_⟩
    rw [Nb.lb?_updateLb fun x => LbOp.uuid_apply x _, hrow₂, Option.map_some, if_pos rfl,
      if_neg hin]
    exact ⟨_, rfl, Dict.get?_set_self ..⟩

theorem Nb.mem_linkedRouters_lrLbDel (ha : nb.RoutersApart) (hlr : nb.router? lr.uuid = some lr)
    (hd : Nb.apply (.lrLbDel lr.uuid u true) nb = .ok nb') :
    nb'.loadBalancers = nb.loadBalancers ∧
      ∀ n, n ∈ nb'.linkedRouters u ↔ n ≠ lr.name ∧ n ∈ nb.linkedRouters u := by
  simp only [Nb.apply, hlr, or_true, if_true] at hd
  cases hd
  exact ⟨rfl, fun n => Nb.mem_linkedRouters_unlinkRouter ha hlr⟩

/-- The row is written, then the router is unlinked. -/
theorem ListsRouters.drop (h : ListsRouters row.uuid names nb) (ha : nb.RoutersApart)
    (hrow : nb.lb? row.uuid = some row) (hlr : nb.router? live.uuid = some live) {op : LbOp}
    (hop : (LbOp.apply row op).externalIds.get? lbExtIdsLrRefKey =
      refText (names.filter (· ≠ live.name)))
    (ht : Prog.transact Nb.apply [.lbUpdate row.uuid op, .lrLbDel live.uuid row.uuid true] nb =
      .ok nb') : ListsRouters row.uuid (names.filter (· ≠ live.name)) nb' := by
  rw [Prog.transact_cons, Nb.apply_lbUpdate hrow] at ht
  obtain ⟨s, hd, hs⟩ := Except.bind_eq_ok.mp
    (show (Nb.apply (.lrLbDel live.uuid row.uuid true)
      (nb.updateLb row.uuid (LbOp.apply · op))).bind .ok = .ok nb' from ht)
  cases hs
  have ha' : (nb.updateLb row.uuid (LbOp.apply · op)).RoutersApart := ha.of_topology ⟨rfl, rfl⟩
  obtain ⟨hrows, hmem⟩ := Nb.mem_linkedRouters_lrLbDel ha' hlr hd
  refine ⟨h.nodup.filter _, fun n => ?_, LbOp.apply row op, ?_, hop⟩
  · rw [List.mem_filter, hmem n, h.mem n, decide_eq_true_eq, and_comm]
    rfl
  · rw [Nb.lb?, hrows, ← Nb.lb?, Nb.lb?_updateLb fun x => LbOp.uuid_apply x op, hrow,
      Option.map_some, if_pos rfl]

/-- A disassociation unlinks the router and drops its name, if there are names at all. -/
theorem ListsRouters.delLr (h : ListsRouters lb.uuid names nb) (ha : nb.RoutersApart)
    (hlr : nb.router? lr.uuid = some live)
    (hcs : getLbToLrAssociationCommands env nb lb lr true isSync = .ok cs)
    (ht : Prog.transact Nb.apply cs nb = .ok nb') :
    ListsRouters lb.uuid (names.filter (· ≠ live.name)) nb' := by
  obtain ⟨row, hrow, htext⟩ := h.text
  obtain ⟨sw, hsw, rfl⟩ := commands_delLr hrow hlr (h.listed ha) htext hcs
  have hu := (Nb.lb?_eq_some hrow).2
  have hr := (Nb.router?_eq_some hlr).2
  rw [← hu] at hrow h ⊢
  rw [← hr] at hlr
  rw [Prog.transact_append] at ht
  obtain ⟨nb₁, href, hswitch⟩ := Except.bind_eq_ok.mp ht
  obtain ⟨hrows, hrouters⟩ := transact_isLsLb hsw hswitch
  suffices hs : ListsRouters row.uuid (names.filter (· ≠ live.name)) nb₁ by
    refine ⟨hs.nodup, fun n => ?_, ?_⟩
    · rw [hs.mem n, Nb.linkedRouters, Nb.linkedRouters, hrouters]
    · rw [Nb.lb?, hrows]
      exact hs.text
  by_cases hne : names = []
  · subst hne
    rw [if_pos rfl] at href
    cases href
    exact h
  · rw [if_neg hne] at href
    by_cases hrest : names.filter (· ≠ live.name) = []
    · rw [refText, if_pos hrest] at href
      refine h.drop ha hrow hlr ?_ href
      rw [refText, if_pos hrest]
      exact Dict.get?_erase_self ..
    · rw [refText, if_neg hrest] at href
      refine h.drop ha hrow hlr ?_ href
      rw [refText, if_neg hrest]
      exact Dict.get?_set_self ..

/-- An association links the router and names it at the end, if it is not named yet. -/
theorem ListsRouters.addLr (h : ListsRouters lb.uuid names nb) (ha : nb.RoutersApart)
    (hlr : nb.router? lr.uuid = some live)
    (hcs : getLbToLrAssociationCommands env nb lb lr false isSync = .ok cs)
    (ht : Prog.transact Nb.apply cs nb = .ok nb') :
    ListsRouters lb.uuid (if live.name ∈ names then names else names ++ [live.name]) nb' := by
  obtain ⟨row, hrow, htext⟩ := h.text
  have hlisted := h.listed ha
  have hu := (Nb.lb?_eq_some hrow).2
  obtain ⟨hm, -⟩ := Nb.router?_eq_some hlr
  obtain ⟨hmem, row', hrow', hget⟩ := transact_addLr ha hrow hlr hcs ht
  rw [← hu] at h ⊢
  have hin : Str.contains live.name ((row.externalIds.get? lbExtIdsLrRefKey).getD
      "None".toList) = true ↔ live.name ∈ names := by
    rw [htext]
    refine contains_refText hlisted (ha.listed live hm) fun n hn hi => ?_
    obtain ⟨x, hx, -, rfl⟩ := Nb.mem_linkedRouters.mp ((h.mem n).mp hn)
    rw [ha.eq hm hx (ha.apart live hm x hx hi)]
  by_cases hn : live.name ∈ names
  · rw [if_pos hn]
    rw [if_pos (hin.mpr hn), htext] at hget
    refine ⟨h.nodup, fun n => ?_, row', hrow', hget⟩
    rw [hmem n, h.mem n]
    refine ⟨.inr, fun he => he.elim (fun he => ?_) id⟩
    rw [he, ← h.mem]
    exact hn
  · rw [if_neg hn]
    rw [if_neg fun hi => hn (hin.mp hi), ← refText_append hlisted htext] at hget
    refine ⟨?_, fun n => ?_, row', hrow', hget⟩
    · rw [List.nodup_append]
      refine ⟨h.nodup, List.nodup_singleton _, fun a hma b hmb hab => ?_⟩
      exact hn (List.mem_singleton.mp hmb ▸ hab ▸ hma)
    · rw [hmem n, List.mem_append, List.mem_singleton, h.mem n, or_comm]

end Commands

section Running
variable {nb : Nb} {u : Nat}

/-- One association or disassociation of a row and a router. -/
structure LrAssociation where
  env : Env
  lb : LoadBalancer
  lr : LogicalRouter
  delete : Bool
  isSync : Bool

/-- The database after the associations, one after another. -/
def associateLrs (l : List LrAssociation) (nb : Nb) : Nb :=
  l.foldl (fun nb a => ((updateLbToLrAssociation a.env a.lb a.lr a.delete a.isSync).run
    Nb.apply nb).2) nb

/-- The row lists exactly the routers that are linked to it. -/
def RouterRefsExact (u : Nat) (nb : Nb) : Prop := ∃ names, ListsRouters u names nb

theorem RouterRefsExact.absent_iff (h : RouterRefsExact u nb) {row : LoadBalancer}
    (hrow : nb.lb? u = some row) :
    row.externalIds.get? lbExtIdsLrRefKey = none ↔ nb.linkedRouters u = [] := by
  obtain ⟨names, hl⟩ := h
  obtain ⟨x, hx, htext⟩ := hl.text
  have hxr : row = x := Option.some.inj (hrow.symm.trans hx)
  have hempty : names = [] ↔ nb.linkedRouters u = [] := by
    rw [List.eq_nil_iff_forall_not_mem, List.eq_nil_iff_forall_not_mem]
    exact forall_congr' fun n => not_congr (hl.mem n)
  rw [hxr, htext, ← hempty, refText]
  split
  · next he => exact iff_of_true rfl he
  · next he => exact iff_of_false nofun he

theorem ListsRouters.step {names : List Str} (h : ListsRouters u names nb) (ha : nb.RoutersApart)
    {a : LrAssociation} (hu : a.lb.uuid = u) (hlr : (nb.router? a.lr.uuid).isSome) :
    RouterRefsExact u ((updateLbToLrAssociation a.env a.lb a.lr a.delete a.isSync).run
      Nb.apply nb).2 := by
  obtain ⟨live, hlr⟩ := Option.isSome_iff_exists.mp hlr
  have hrun := run_retried (fun nb => getLbToLrAssociationCommands a.env nb a.lb a.lr a.delete
    a.isSync) (· = .rowNotFound) 2 nb
  have hrun : (updateLbToLrAssociation a.env a.lb a.lr a.delete a.isSync).run Nb.apply nb = _ :=
    hrun
  rw [hrun]
  subst hu
  cases hcs : getLbToLrAssociationCommands a.env nb a.lb a.lr a.delete a.isSync with
  | error e => exact ⟨names, h⟩
  | ok cs =>
      dsimp only
      cases ht : Prog.transact Nb.apply cs nb with
      | error e => exact ⟨names, h⟩
      | ok nb' =>
          cases hd : a.delete with
          | false =>
              rw [hd] at hcs
              exact ⟨_, h.addLr ha hlr hcs ht⟩
          | true =>
              rw [hd] at hcs
              exact ⟨_, h.delLr ha hlr hcs ht⟩

/-- After any associations and disassociations of a row that starts on no router, it
lists exactly the routers that are linked to it. -/
theorem routerRefsExact_associateLrs {row : LoadBalancer} (ha : nb.RoutersApart)
    (hrow : nb.lb? u = some row) (hnone : row.externalIds.get? lbExtIdsLrRefKey = none)
    (hoff : ∀ lr ∈ nb.routers, u ∉ lr.loadBalancer) (l : List LrAssociation)
    (hl : ∀ a ∈ l, a.lb.uuid = u ∧ (nb.router? a.lr.uuid).isSome) :
    RouterRefsExact u (associateLrs l nb) := by
  have hstart : ListsRouters u [] nb := by
    refine ⟨List.nodup_nil, fun n => ⟨nofun, fun hn => ?_⟩, row, hrow, hnone⟩
    obtain ⟨lr, hm, hmem, -⟩ := Nb.mem_linkedRouters.mp hn
    exact absurd hmem (hoff lr hm)
  suffices h : ∀ s, nb.SameTopology s → RouterRefsExact u s → RouterRefsExact u (associateLrs l s)
    from h nb (.refl nb) ⟨[], hstart⟩
  induction l with
  | nil => exact fun s _ hs => hs
  | cons a l ih =>
      intro s htop ⟨names, hs⟩
      obtain ⟨hau, har⟩ := hl a List.mem_cons_self
      obtain ⟨lr, hlr⟩ := Option.isSome_iff_exists.mp har
      obtain ⟨lr', hlr', -⟩ := htop.router? hlr
      refine ih (fun b hb => hl b (List.mem_cons_of_mem _ hb)) _
        (htop.trans (sameTopology_run _ s)) ?_
      exact hs.step (ha.of_topology htop) hau (by rw [hlr']; rfl)

end Running

section Example

def exampleRefsRow : LoadBalancer :=
  { uuid := 3, name := exampleId 'a', protocol := some .tcp, vips := ∅
    externalIds := .single lbExtIdsVipKey "10.0.0.2".toList, options := ∅
    selectionFields := [], healthCheck := [], ipPortMappings := ∅ }

/-- The row with a list of routers. -/
def exampleNamingRow (text : Str) : LoadBalancer :=
  { exampleRefsRow with
    externalIds := exampleRefsRow.externalIds.set lbExtIdsLrRefKey text }

/-- A row with a VIP beside one router of the given name. -/
def exampleRefs (name : Str) : Nb :=
  { exampleNb with
    loadBalancers := [exampleRefsRow], routers := [⟨1, name, [], [], ∅⟩], nextUuid := 4 }

def exampleAssociation (name : Str) (delete : Bool) : LrAssociation :=
  ⟨exampleEnv, exampleRefsRow, ⟨1, name, [], [], ∅⟩, delete, false⟩

/-- A router of Neutron. -/
def exampleListedRouter (uuid : Nat) (id : Char) : LogicalRouter :=
  ⟨uuid, ovnName (exampleId id), [], [], ∅⟩

def exampleRoutersNb : Nb := { exampleNb with
  loadBalancers := [exampleRefsRow]
  routers := [exampleListedRouter 1 'e', exampleListedRouter 2 'f']
  nextUuid := 4 }

/-- Both routers are associated, and the first is left again. -/
def exampleJoins : List LrAssociation :=
  [⟨exampleEnv, exampleRefsRow, exampleListedRouter 1 'e', false, false⟩,
    ⟨exampleEnv, exampleRefsRow, exampleListedRouter 2 'f', false, false⟩,
    ⟨exampleEnv, exampleRefsRow, exampleListedRouter 1 'e', true, false⟩]

theorem routerRefsExact_associateLrs_example :
    (associateLrs exampleJoins exampleRoutersNb).linkedRouters 3 = [ovnName (exampleId 'f')] ∧
      RouterRefsExact 3 (associateLrs exampleJoins exampleRoutersNb) := by
  have ha : exampleRoutersNb.RoutersApart := by
    have hrefs : ∀ c ∈ ['e', 'f'], IsRefName (ovnName (exampleId c)) := by
      intro c hc
      simp only [List.mem_cons, List.not_mem_nil, or_false] at hc
      rcases hc with rfl | rfl
      · exact ⟨by decide +kernel, by decide +kernel, by decide +kernel⟩
      · exact ⟨by decide +kernel, by decide +kernel, by decide +kernel⟩
    refine ⟨by decide, ?_, by decide +kernel⟩
    exact List.forall_mem_cons.mpr ⟨hrefs 'e' (by decide),
      List.forall_mem_singleton.mpr (hrefs 'f' (by decide))⟩
  refine ⟨by decide +kernel, routerRefsExact_associateLrs ha
    (show exampleRoutersNb.lb? 3 = some exampleRefsRow from rfl) rfl (by decide) _ ?_⟩
  decide +kernel

/-- A name that is part of `None` is never listed; one with a comma, or with a blank at
an end, is not taken out again. -/
theorem not_routerRefsExact_example :
    ¬ RouterRefsExact 3 (associateLrs [exampleAssociation "one".toList false]
      (exampleRefs "one".toList)) ∧
    ¬ RouterRefsExact 3 (associateLrs [exampleAssociation "r,s".toList false,
      exampleAssociation "r,s".toList true] (exampleRefs "r,s".toList)) ∧
    ¬ RouterRefsExact 3 (associateLrs [exampleAssociation " r".toList false,
      exampleAssociation " r".toList true] (exampleRefs " r".toList)) := by
  refine ⟨fun h => ?_, fun h => ?_, fun h => ?_⟩
  · have hrow : (associateLrs [exampleAssociation "one".toList false]
        (exampleRefs "one".toList)).lb? 3 = some exampleRefsRow := by decide +kernel
    have hlinked := (h.absent_iff hrow).mp rfl
    revert hlinked
    decide +kernel
  · have hrow : (associateLrs [exampleAssociation "r,s".toList false,
        exampleAssociation "r,s".toList true] (exampleRefs "r,s".toList)).lb? 3 =
          some (exampleNamingRow "r,s".toList) := by decide +kernel
    have habsent := (h.absent_iff hrow).mpr (by decide +kernel)
    revert habsent
    decide +kernel
  · have hrow : (associateLrs [exampleAssociation " r".toList false,
        exampleAssociation " r".toList true] (exampleRefs " r".toList)).lb? 3 =
          some (exampleNamingRow "r".toList) := by decide +kernel
    have habsent := (h.absent_iff hrow).mpr (by decide +kernel)
    revert habsent
    decide +kernel

end Example

end OvnOctavia

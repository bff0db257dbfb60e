import OvnOctavia.Peripheral

/-!
The links of switches and routers to one row. What works on another row leaves the
row and its links alone, and what associates and dissociates rows leaves the ports of
switches and routers alone.
-/

namespace OvnOctavia

/-- The switch as one row sees it. -/
def LogicalSwitch.seenBy (v : Nat) (ls : LogicalSwitch) : LogicalSwitch :=
  { ls with loadBalancer := ls.loadBalancer.filter (· = v) }

def LogicalRouter.seenBy (v : Nat) (lr : LogicalRouter) : LogicalRouter :=
  { lr with loadBalancer := lr.loadBalancer.filter (· = v) }

/-- The switch without its links. -/
def LogicalSwitch.bare (ls : LogicalSwitch) : LogicalSwitch := { ls with loadBalancer := [] }

def LogicalRouter.bare (lr : LogicalRouter) : LogicalRouter := { lr with loadBalancer := [] }

/-- The same row `v`, and the same links to it. -/
structure Nb.SameAt (v : Nat) (nb nb' : Nb) : Prop where
  row : nb'.lb? v = nb.lb? v
  switches : nb'.switches.map (LogicalSwitch.seenBy v) = nb.switches.map (LogicalSwitch.seenBy v)
  routers : nb'.routers.map (LogicalRouter.seenBy v) = nb.routers.map (LogicalRouter.seenBy v)

/-- The same switches and routers, with the same ports. -/
structure Nb.SameTopology (nb nb' : Nb) : Prop where
  switches : nb'.switches.map LogicalSwitch.bare = nb.switches.map LogicalSwitch.bare
  routers : nb'.routers.map LogicalRouter.bare = nb.routers.map LogicalRouter.bare

theorem Nb.SameAt.refl (v : Nat) (nb : Nb) : nb.SameAt v nb := ⟨rfl, rfl, rfl⟩

theorem Nb.SameAt.trans {v : Nat} {a b c : Nb} (h : a.SameAt v b) (h' : b.SameAt v c) :
    a.SameAt v c :=
  ⟨h'.row.trans h.row, h'.switches.trans h.switches, h'.routers.trans h.routers⟩

theorem Nb.SameTopology.refl (nb : Nb) : nb.SameTopology nb := ⟨rfl, rfl⟩

theorem Nb.SameTopology.trans {a b c : Nb} (h : a.SameTopology b) (h' : b.SameTopology c) :
    a.SameTopology c :=
  ⟨h'.switches.trans h.switches, h'.routers.trans h.routers⟩

section Filters

theorem filter_append_ne {u v : Nat} (h : u ≠ v) (l : List Nat) :
    (if u ∈ l then l else l ++ [u]).filter (· = v) = l.filter (· = v) := by
  split
  · rfl
  · simp [h]

theorem filter_filter_ne {u v : Nat} (h : u ≠ v) (l : List Nat) :
    (l.filter (· ≠ u)).filter (· = v) = l.filter (· = v) := by
  rw [List.filter_filter]
  refine List.filter_congr fun x _ => ?_
  by_cases hx : x = v
  · subst hx
    simp [h.symm]
  · simp [hx]

theorem mem_iff_of_filter {v : Nat} {l l' : List Nat} (h : l'.filter (· = v) = l.filter (· = v)) :
    v ∈ l' ↔ v ∈ l := by
  have hmem : ∀ l : List Nat, v ∈ l ↔ v ∈ l.filter (· = v) := by simp
  rw [hmem l', hmem l, h]

end Filters

section Updates
variable {v : Nat} (nb : Nb) (n : Nat)

theorem map_updateSwitch {β : Type} {g : LogicalSwitch → β} {f : LogicalSwitch → LogicalSwitch}
    (h : ∀ ls, ls.uuid = n → g (f ls) = g ls) :
    (nb.updateSwitch n f).switches.map g = nb.switches.map g := by
  simp only [Nb.updateSwitch, List.map_map]
  refine List.map_congr_left fun ls _ => ?_
  simp only [Function.comp_apply]
  split
  · next hu => exact h ls hu
  · rfl

theorem map_updateRouter {β : Type} {g : LogicalRouter → β} {f : LogicalRouter → LogicalRouter}
    (h : ∀ lr, lr.uuid = n → g (f lr) = g lr) :
    (nb.updateRouter n f).routers.map g = nb.routers.map g := by
  simp only [Nb.updateRouter, List.map_map]
  refine List.map_congr_left fun lr _ => ?_
  simp only [Function.comp_apply]
  split
  · next hu => exact h lr hu
  · rfl

end Updates

section Commands
variable {c : Command} {u v : Nat} {nb nb' : Nb}

/-- A command that works on one row leaves the others and their links alone. -/
theorem Command.sameAt (hp : c.IsPeripheral) (ht : c.Targets u) (hne : u ≠ v)
    (ha : Nb.apply c nb = .ok nb') : nb.SameAt v nb' := by
  cases c with
  | lbCreate | lbDel | hcCreate => exact hp.elim
  | hcUpdate | hcDestroy => exact ht.elim
  | lbUpdate w op =>
      cases ht
      simp only [Nb.apply] at ha
      split at ha <;> cases ha
      refine ⟨?_, rfl, rfl⟩
      rw [Nb.lb?_updateLb fun row => LbOp.uuid_apply row op]
      cases h : nb.lb? v with
      | none => rfl
      | some row => simp [(Nb.lb?_eq_some h).2, hne.symm]
  | lsLbAdd ref w =>
      cases ht
      simp only [Nb.apply] at ha
      split at ha <;> cases ha
      refine ⟨rfl, map_updateSwitch nb _ fun ls _ => ?_, rfl⟩
      simp only [LogicalSwitch.seenBy, filter_append_ne hne]
  | lsLbDel ref w ifExists =>
      cases ht
      simp only [Nb.apply] at ha
      split at ha
      · split at ha
        · cases ha
          refine ⟨rfl, map_updateSwitch nb _ fun ls _ => ?_, rfl⟩
          simp only [LogicalSwitch.seenBy, filter_filter_ne hne]
        · cases ha
      · cases ha
  | lrLbAdd r w =>
      cases ht
      simp only [Nb.apply] at ha
      split at ha <;> cases ha
      refine ⟨rfl, rfl, map_updateRouter nb _ fun lr _ => ?_⟩
      simp only [LogicalRouter.seenBy, filter_append_ne hne]
  | lrLbDel r w ifExists =>
      cases ht
      simp only [Nb.apply] at ha
      split at ha
      · split at ha
        · cases ha
          refine ⟨rfl, rfl, map_updateRouter nb _ fun lr _ => ?_⟩
          simp only [LogicalRouter.seenBy, filter_filter_ne hne]
        · cases ha
      · cases ha
  | natClearExternalMac | natClearLogicalPort =>
      simp only [Nb.apply] at ha
      split at ha <;> cases ha
      exact ⟨rfl, rfl, rfl⟩
  | portDelete id =>
      cases ha
      exact ⟨rfl, rfl, rfl⟩

/-- No command changes the ports of switches and routers. -/
theorem Nb.sameTopology_apply (ha : Nb.apply c nb = .ok nb') : nb.SameTopology nb' := by
  cases c with
  | lbCreate | portDelete =>
      cases ha
      exact ⟨rfl, rfl⟩
  | lbDel w =>
      simp only [Nb.apply] at ha
      split at ha <;> cases ha
      exact ⟨by simp [Nb.deleteLb, Nb.collectHealthChecks, LogicalSwitch.bare],
        by simp [Nb.deleteLb, Nb.collectHealthChecks, LogicalRouter.bare]⟩
  | lbUpdate | hcCreate | hcUpdate | hcDestroy | natClearExternalMac | natClearLogicalPort =>
      simp only [Nb.apply] at ha
      split at ha <;> cases ha
      exact ⟨rfl, rfl⟩
  | lsLbAdd ref w =>
      simp only [Nb.apply] at ha
      split at ha <;> cases ha
      exact ⟨map_updateSwitch nb _ fun _ _ => rfl, rfl⟩
  | lsLbDel ref w ifExists =>
      simp only [Nb.apply] at ha
      split at ha
      · split at ha
        · cases ha
          exact ⟨map_updateSwitch nb _ fun _ _ => rfl, rfl⟩
        · cases ha
      · cases ha
  | lrLbAdd r w =>
      simp only [Nb.apply] at ha
      split at ha <;> cases ha
      exact ⟨rfl, map_updateRouter nb _ fun _ _ => rfl⟩
  | lrLbDel r w ifExists =>
      simp only [Nb.apply] at ha
      split at ha
      · split at ha
        · cases ha
          exact ⟨rfl, map_updateRouter nb _ fun _ _ => rfl⟩
        · cases ha
      · cases ha

end Commands

/-- Row identifiers stay distinct, and the next one does not go back. -/
theorem Nb.WellFormed.apply (hw : nb.WellFormed) (ha : Nb.apply c nb = .ok nb') :
    nb'.WellFormed ∧ nb.nextUuid ≤ nb'.nextUuid := by
  have hsame : nb'.loadBalancers = nb.loadBalancers → nb'.nextUuid = nb.nextUuid →
      nb'.WellFormed ∧ nb.nextUuid ≤ nb'.nextUuid := fun hrows hnext =>
    ⟨⟨hrows ▸ hw.nodup, fun lb hm => hnext ▸ hw.lt_next lb (hrows ▸ hm)⟩, hnext.ge⟩
  cases c with
  | lbCreate name protocol externalIds fields =>
      cases ha
      exact ⟨hw.createLb .., Nat.le_succ _⟩
  | portDelete id =>
      cases ha
      exact hsame rfl rfl
  | lbUpdate u op =>
      simp only [Nb.apply] at ha
      split at ha <;> cases ha
      exact ⟨hw.updateLb fun lb => LbOp.uuid_apply lb op, Nat.le_refl _⟩
  | lbDel u =>
      simp only [Nb.apply] at ha
      split at ha <;> cases ha
      exact ⟨hw.deleteLb u, Nat.le_refl _⟩
  | hcCreate u vip options externalIds =>
      simp only [Nb.apply] at ha
      split at ha <;> cases ha
      have hput := hw.updateLb (u := u) (f := (LbOp.apply · (.addHealthCheck nb.nextUuid)))
        fun lb => LbOp.uuid_apply lb _
      exact ⟨⟨hput.nodup, fun lb hm => Nat.lt_succ_of_lt (hput.lt_next lb hm)⟩, Nat.le_succ _⟩
  | lsLbDel | lrLbDel =>
      simp only [Nb.apply] at ha
      split at ha
      · split at ha
        · cases ha
          exact hsame rfl rfl
        · cases ha
      · cases ha
  | hcUpdate | hcDestroy | lsLbAdd | lrLbAdd | natClearExternalMac | natClearLogicalPort =>
      simp only [Nb.apply] at ha
      split at ha <;> cases ha
      exact hsame rfl rfl

theorem run_executeCommands (cs : List Command) (s : Nb) :
    (executeCommands cs).run Nb.apply s =
      match Prog.transact Nb.apply cs s with
      | .ok s' => (.ok (), s')
      | .error e => (.error e, s) := by
  cases cs with
  | nil => rfl
  | cons c cs =>
      rw [executeCommands, Prog.run_transaction]
      cases Prog.transact Nb.apply (c :: cs) s <;> rfl

theorem run_executeCommands_ok {cs : List Command} {s s' : Nb}
    (h : Prog.transact Nb.apply cs s = .ok s') :
    (executeCommands cs).run Nb.apply s = (.ok (), s') := by
  rw [run_executeCommands, h]

section Programs
variable {α : Type} {p : Nbctl α} {u v : Nat}

theorem sameTopology_run (p : Nbctl α) (nb : Nb) :
    nb.SameTopology (p.run Nb.apply nb).2 :=
  p.uses_all.run_keeps (I := nb.SameTopology)
    (fun _ _ _ _ hs ha => hs.trans (Nb.sameTopology_apply ha)) (.refl nb)

theorem Nb.WellFormed.run {nb : Nb} (hw : nb.WellFormed) (p : Nbctl α) :
    (p.run Nb.apply nb).2.WellFormed ∧ nb.nextUuid ≤ (p.run Nb.apply nb).2.nextUuid :=
  p.uses_all.run_keeps (I := fun s => s.WellFormed ∧ nb.nextUuid ≤ s.nextUuid)
    (fun _ _ _ _ hs ha => ⟨(hs.1.apply ha).1, hs.2.trans (hs.1.apply ha).2⟩) ⟨hw, Nat.le_refl _⟩

theorem PeripheralOn.sameAt (hp : PeripheralOn u p) (hne : u ≠ v) (nb : Nb) :
    nb.SameAt v (p.run Nb.apply nb).2 :=
  hp.run_keeps (I := nb.SameAt v)
    (fun _ _ _ hc hs ha => hs.trans (Command.sameAt hc.1 hc.2 hne ha)) (.refl v nb)

end Programs

end OvnOctavia

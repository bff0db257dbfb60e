import OvnOctavia.Outcomes

/-!
What the member requests do to the table of load balancer rows: the row that has
the pool's key gets another value for the pool, or keeps it for a reason that is
given, and then another status map. What happens between the two leaves all
objects alone, and nothing happens there that concerns health monitors on a row
without health checks.
-/

namespace OvnOctavia

section Finding
variable {nb : Nb}

/-- The key and the row of a pool, as `_find_ovn_lb_by_pool_id` finds them. -/
def Nb.poolRow (nb : Nb) (poolId : Str) : Str × Option LoadBalancer :=
  let find (key : Str) := nb.loadBalancers.find? fun lb =>
    lb.externalIds.get? ovnDeviceOwnerExtIdKey ≠ some portForwardingPlugin &&
      lb.externalIds.contains key
  match find (getPoolKey poolId true) with
  | some lb => (getPoolKey poolId true, some lb)
  | none => (getPoolKey poolId false, find (getPoolKey poolId false))

theorem run_findOvnLbByPoolId (nb : Nb) (poolId : Str) :
    (findOvnLbByPoolId poolId).run Nb.apply nb = (.ok (nb.poolRow poolId), nb) := by
  have hfind : ∀ key, (findOvnLbWithPoolKey key).run Nb.apply nb =
      (.ok (nb.loadBalancers.find? fun lb =>
        lb.externalIds.get? ovnDeviceOwnerExtIdKey ≠ some portForwardingPlugin &&
          lb.externalIds.contains key), nb) := fun key => rfl
  simp only [findOvnLbByPoolId, Prog.run_bind, hfind, Nb.poolRow]
  generalize nb.loadBalancers.find? (fun lb =>
    lb.externalIds.get? ovnDeviceOwnerExtIdKey ≠ some portForwardingPlugin &&
      lb.externalIds.contains (getPoolKey poolId true)) = found
  cases found with
  | some lb => rfl
  | none => simp only [Prog.run_bind, hfind]; rfl

theorem Nb.poolRow_eq_some {poolId key : Str} {row : LoadBalancer}
    (h : nb.poolRow poolId = (key, some row)) :
    row ∈ nb.loadBalancers ∧ key ∈ row.externalIds.keys ∧
      ∃ up, key = getPoolKey poolId up := by
  have hfound : ∀ k : Str, (nb.loadBalancers.find? fun lb =>
      lb.externalIds.get? ovnDeviceOwnerExtIdKey ≠ some portForwardingPlugin &&
        lb.externalIds.contains k) = some row →
      row ∈ nb.loadBalancers ∧ k ∈ row.externalIds.keys := by
    intro k hk
    have hp := List.find?_some hk
    rw [Bool.and_eq_true, Dict.contains_iff] at hp
    exact ⟨List.mem_of_find?_eq_some hk, hp.2⟩
  unfold Nb.poolRow at h
  dsimp only at h
  split at h
  · next lb hlb =>
      cases h
      exact ⟨(hfound _ hlb).1, (hfound _ hlb).2, true, rfl⟩
  · rw [Prod.mk.injEq] at h
    obtain ⟨rfl, hlb⟩ := h
    exact ⟨(hfound _ hlb).1, (hfound _ hlb).2, false, rfl⟩

/-- A search of the rows that does not tell a row from the one in its place. -/
theorem Nb.find?_putLb (hw : nb.WellFormed) {row row' : LoadBalancer}
    (hget : nb.lb? row'.uuid = some row) {p : LoadBalancer → Bool} (hp : p row' = p row) :
    (nb.putLb row').loadBalancers.find? p = (nb.loadBalancers.find? p).map fun lb =>
      if lb.uuid = row'.uuid then row' else lb := by
  have hmem : ∀ lb ∈ nb.loadBalancers, p (if lb.uuid = row'.uuid then row' else lb) = p lb := by
    intro lb hlb
    split
    · next hu =>
        have hlb' := hw.lb?_of_mem hlb
        rw [hu, hget] at hlb'
        rw [← Option.some.inj hlb', hp]
    · rfl
  rw [putLb, Nb.loadBalancers_updateLb]
  generalize nb.loadBalancers = rows at hmem
  induction rows with
  | nil => rfl
  | cons lb rows ih =>
      rw [List.map_cons, List.find?_cons, List.find?_cons, hmem lb (List.mem_cons_self ..),
        ih fun x hx => hmem x (List.mem_cons_of_mem _ hx)]
      cases p lb with
      | true => rfl
      | false => rfl

/-- A pool is found again in a row that was changed in other keys. -/
theorem Nb.poolRow_putLb (hw : nb.WellFormed) {poolId key : Str} {row row' : LoadBalancer}
    (h : nb.poolRow poolId = (key, some row)) (hu : row'.uuid = row.uuid)
    (howner : row'.externalIds.get? ovnDeviceOwnerExtIdKey =
      row.externalIds.get? ovnDeviceOwnerExtIdKey)
    (hkeys : ∀ up, row'.externalIds.contains (getPoolKey poolId up) =
      row.externalIds.contains (getPoolKey poolId up)) :
    (nb.putLb row').poolRow poolId = (key, some row') := by
  have hget : nb.lb? row'.uuid = some row := hu ▸ hw.lb?_of_mem (Nb.poolRow_eq_some h).1
  have hfind := fun up => Nb.find?_putLb hw hget (p := fun lb =>
    lb.externalIds.get? ovnDeviceOwnerExtIdKey ≠ some portForwardingPlugin &&
      lb.externalIds.contains (getPoolKey poolId up)) (by simp only [howner, hkeys])
  unfold Nb.poolRow at h ⊢
  simp only [hfind]
  dsimp only at h
  cases htrue : nb.loadBalancers.find? fun lb =>
      lb.externalIds.get? ovnDeviceOwnerExtIdKey ≠ some portForwardingPlugin &&
        lb.externalIds.contains (getPoolKey poolId true) with
  | some lb =>
      rw [htrue] at h
      cases h
      simp only [Option.map_some, if_pos hu.symm]
  | none =>
      rw [htrue] at h
      obtain ⟨rfl, hfalse⟩ := Prod.mk.inj h
      rw [hfalse]
      simp only [Option.map_none, Option.map_some, if_pos hu.symm]

/-- A pool that is not found has no key on a row of the provider. -/
theorem Nb.poolRow_eq_none {poolId key : Str} (h : nb.poolRow poolId = (key, none))
    {row : LoadBalancer} (hrow : row ∈ nb.loadBalancers)
    (howner : row.externalIds.get? ovnDeviceOwnerExtIdKey = none) (up : Bool) :
    getPoolKey poolId up ∉ row.externalIds.keys := by
  have hnone : ∀ k : Str, (nb.loadBalancers.find? fun lb =>
      lb.externalIds.get? ovnDeviceOwnerExtIdKey ≠ some portForwardingPlugin &&
        lb.externalIds.contains k) = none → k ∉ row.externalIds.keys := by
    intro k hk hm
    have := List.find?_eq_none.mp hk row hrow
    rw [howner, (Dict.contains_iff _ _).mpr hm] at this
    exact this rfl
  unfold Nb.poolRow at h
  dsimp only at h
  split at h
  · cases h
  · next htrue =>
      rw [Prod.mk.injEq] at h
      cases up with
      | true => exact hnone _ htrue
      | false => exact hnone _ h.2

end Finding

section Statuses
variable {nb : Nb}

/-- How writing a member's status on the row `u` ends. -/
inductive StatusWritten (u : Nat) (member : Str) (status : Option Str) (nb : Nb) : Nb → Prop
  | unreadable {row : LoadBalancer} {e : Exc} (hrow : nb.lb? u = some row)
      (he : loadMemberStatuses row.externalIds = .error e) : StatusWritten u member status nb nb
  | written {row : LoadBalancer} {statuses : Dict Str Str} (hrow : nb.lb? u = some row)
      (hs : loadMemberStatuses row.externalIds = .ok statuses) :
      StatusWritten u member status nb (nb.putLb { row with
        externalIds := withStatuses row.externalIds (withStatus statuses member status) })

theorem statusWritten {lb row : LoadBalancer} (hw : nb.WellFormed)
    (hrow : nb.lb? lb.uuid = some row) (member : Str) (status : Option Str) :
    StatusWritten lb.uuid member status nb
      ((updateExternalIdsMemberStatus (some lb) member status).run Nb.apply nb).2 := by
  cases hs : loadMemberStatuses row.externalIds with
  | error e =>
      have hrun : ((updateExternalIdsMemberStatus (some lb) member status).run Nb.apply nb).2 =
          nb := by
        simp only [updateExternalIdsMemberStatus, Prog.run_bind, run_readLb, live_of_lb? hrow, hs,
          Prog.run_ofExcept]
      rw [hrun]
      exact .unreadable hrow hs
  | ok statuses =>
      rw [run_updateExternalIdsMemberStatus hw hrow hs]
      exact .written hrow hs

/-- A reading after a program leaves what the program left. -/
theorem run_bind_reading {α β : Type} {p : Nbctl α} {f : α → Nbctl β}
    (hf : ∀ a, (f a).Uses fun _ => False) (nb : Nb) :
    ((p >>= f).run Nb.apply nb).2 = (p.run Nb.apply nb).2 := by
  rw [Prog.run_bind]
  rcases p.run Nb.apply nb with ⟨e | a, s⟩
  · rfl
  · exact (hf a).run_eq_of_none s

/-- Telling the statuses of a row changes nothing. -/
theorem run_statusOf (env : Env) (lb : Option LoadBalancer) (nb : Nb) (f : Status → Status) :
    ((currentOperatingStatuses env lb >>= fun status => pure (f status) : Nbctl Status).run
      Nb.apply nb).2 = nb :=
  Prog.Uses.run_eq_of_none (.bind (uses_currentOperatingStatuses env lb) fun _ => .pure _) nb

end Statuses

section Adding
variable {nb : Nb} {env : Env}

/-- How adding a member to a pool value ends. -/
inductive Added (env : Env) (info : MemberInfo) (key value : Str) (row : LoadBalancer) (nb : Nb) :
    Nb → Prop
  | incomplete {e : Exc} (h : getMemberInfo info = .error e) : Added env info key value row nb nb
  | present {text : Str} (h : getMemberInfo info = .ok text) (hm : text ∈ poolItems value) :
      Added env info key value row nb nb
  | unframed {text : Str} {e : Exc} (h : getMemberInfo info = .ok text)
      (hup : info.adminStateUp = some true)
      (hf : frameVipIps env row.externalIds (row.externalIds.set key
        (Str.join ',' (poolItems value ++ [text]))) = .error e) :
      Added env info key value row nb nb
  | added {text : Str} {vips : Dict Str Str} (h : getMemberInfo info = .ok text)
      (hm : text ∉ poolItems value)
      (hf : (if info.adminStateUp = some true then
          frameVipIps env row.externalIds (row.externalIds.set key
            (Str.join ',' (poolItems value ++ [text])))
        else .ok row.vips) = .ok vips) :
      Added env info key value row nb
        ((associateMember env info row).run Nb.apply (nb.putLb { row with
          externalIds := row.externalIds.set key (Str.join ',' (poolItems value ++ [text]))
          vips })).2

theorem addMember_added (env : Env) (hw : nb.WellFormed) {row : LoadBalancer}
    (hrow : nb.lb? row.uuid = some row) {key value : Str}
    (hv : row.externalIds.get? key = some value) (info : MemberInfo) :
    Added env info key value row nb ((addMember env info (some row) key).run Nb.apply nb).2 := by
  simp only [addMember, Prog.run_bind, run_readLb, live_of_lb? hrow, hv, Prog.run_ofExcept]
  cases hi : getMemberInfo info with
  | error e => exact .incomplete hi
  | ok text =>
      dsimp only
      by_cases hm : text ∈ poolItems value
      · rw [if_pos hm]
        exact .present hi hm
      · rw [if_neg hm]
        simp only [Prog.run_bind, run_addMemberOn hw hrow]
        cases hf : (if info.adminStateUp = some true then
            frameVipIps env row.externalIds (row.externalIds.set key
              (Str.join ',' (poolItems value ++ [text])))
          else .ok row.vips) with
        | error e =>
            split at hf
            · next hup => exact .unframed hi hup hf
            · cases hf
        | ok vips =>
            have hadded : Added env info key value row nb _ := .added hi hm hf
            dsimp only
            generalize hr : (associateMember env info row).run Nb.apply (nb.putLb { row with
              externalIds := row.externalIds.set key (Str.join ',' (poolItems value ++ [text]))
              vips }) = r at hadded
            rcases r with ⟨e | a, nb'⟩
            · exact hadded
            · exact hadded

/-- Whatever comes of it, the row is still there, and without health checks if it
had none. -/
theorem Added.row (hw : nb.WellFormed) {info : MemberInfo} {key value : Str} {row : LoadBalancer}
    (hrow : nb.lb? row.uuid = some row) {nb₁ : Nb} (h : Added env info key value row nb nb₁) :
    nb₁.WellFormed ∧ ∃ row₁, nb₁.lb? row.uuid = some row₁ ∧
      (row.healthCheck = [] → row₁.healthCheck = []) := by
  have hsame : nb.WellFormed ∧ ∃ row₁, nb.lb? row.uuid = some row₁ ∧
      (row.healthCheck = [] → row₁.healthCheck = []) := ⟨hw, row, hrow, id⟩
  cases h with
  | incomplete h => exact hsame
  | present h hm => exact hsame
  | unframed h hup hf => exact hsame
  | @added text vips h hm hf =>
      have hput := Nb.lb?_putLb { row with
        externalIds := row.externalIds.set key (Str.join ',' (poolItems value ++ [text])), vips }
          hrow
      have hs := (peripheral_associateMember env info row).sameObjects (nb.putLb { row with
        externalIds := row.externalIds.set key (Str.join ',' (poolItems value ++ [text])), vips })
      obtain ⟨row₁, hrow₁, hsame₁⟩ := hs.lb? hput
      exact ⟨hs.wellFormed (hw.putLb _), row₁, hrow₁, hsame₁.unmonitored⟩

/-- A request on a pool that is not found changes nothing. -/
theorem handled_memberCreate_of_none {info : MemberInfo}
    (h : info.poolId = none ∨ ∃ poolId key, info.poolId = some poolId ∧
      nb.poolRow poolId = (key, none)) : handled env (.memberCreate info) nb = nb := by
  rw [handled_eq, handle, run_map_some, memberCreate]
  rcases h with hp | ⟨poolId, key, hp, hrow⟩
  · rw [hp]; rfl
  · rw [hp]
    simp only [Prog.run_bind, run_findOvnLbByPoolId, hrow, Prog.run_attempt]
    have hadd : (addMember env info none key).run Nb.apply nb = (.error .attributeError, nb) := rfl
    rw [hadd]
    rcases info.adminStateUp with _ | _ | _ <;> rfl

/-- How the creation of a member ends: the pool value and then the status. -/
structure MemberCreated (env : Env) (info : MemberInfo) (key value : Str) (row : LoadBalancer)
    (nb nb₁ nb₂ nb' : Nb) : Prop where
  added : Added env info key value row nb nb₁
  between : nb₁.SameObjects nb₂
  unmonitored : row.healthCheck = [] → nb₂ = nb₁
  status : nb' = nb₂ ∧
      (info.adminStateUp = none ∨ info.adminStateUp = some true ∧ row.healthCheck ≠ []) ∨
    ∃ up status, info.adminStateUp = some up ∧ (up = false ↔ status = OFFLINE) ∧
      StatusWritten row.uuid info.id (some status) nb₂ nb'

theorem newMemberStatus_ne_offline {lb : LoadBalancer} {key text status : Str} {nb nb' : Nb}
    (h : (newMemberStatus env lb key text).run Nb.apply nb = (.ok status, nb')) :
    status ≠ OFFLINE := by
  have hret : ∀ s : Option Str, (if s = some ONLINE then ONLINE else ERROR) ≠ OFFLINE := by
    intro s
    split
    · decide
    · decide
  simp only [newMemberStatus, Prog.run_bind, Prog.run_ofExcept] at h
  cases hm : extractMemberInfo text with
  | error e => rw [hm] at h; cases h
  | ok ms =>
      rw [hm] at h
      cases ms with
      | nil => cases h
      | cons m ms =>
          simp only [Prog.run_bind] at h
          rcases hr : (updateHmMember env lb key m.ip false).run Nb.apply nb with ⟨e | s, nb₁⟩
          · rw [hr] at h; cases h
          · rw [hr] at h
            cases h
            exact hret s

theorem handled_memberCreate (env : Env) (hw : nb.WellFormed) {info : MemberInfo}
    {poolId key value : Str}
    {row : LoadBalancer} (hp : info.poolId = some poolId)
    (hfound : nb.poolRow poolId = (key, some row)) (hv : row.externalIds.get? key = some value) :
    ∃ nb₁ nb₂, MemberCreated env info key value row nb nb₁ nb₂
      (handled env (.memberCreate info) nb) := by
  have hrow := hw.lb?_of_mem (Nb.poolRow_eq_some hfound).1
  have hadded := addMember_added env hw hrow hv info
  obtain ⟨hw₁, row₁, hrow₁, hmon⟩ := hadded.row hw hrow
  rw [handled_eq, handle, run_map_some, memberCreate, hp]
  simp only [Prog.run_bind, run_findOvnLbByPoolId, hfound, Prog.run_attempt]
  generalize (addMember env info (some row) key).run Nb.apply nb = r at hadded hw₁ hrow₁
  obtain ⟨res, nb₁⟩ := r
  refine ⟨nb₁, ?_⟩
  cases hup : info.adminStateUp with
  | none => exact ⟨nb₁, hadded, .refl _, fun _ => rfl, .inl ⟨rfl, .inl hup⟩⟩
  | some up =>
      -- once the status is known, the rest writes it
      have hwrite : ∀ nb₂ status, nb₁.SameObjects nb₂ → (row.healthCheck = [] → nb₂ = nb₁) →
          (up = false ↔ status = OFFLINE) → MemberCreated env info key value row nb nb₁ nb₂
            (((updateExternalIdsMemberStatus (some row) info.id (some status) >>= fun _ =>
              currentOperatingStatuses env (some row)) : Nbctl Status).run Nb.apply nb₂).2 := by
        intro nb₂ status hs hn hoff
        obtain ⟨row₂, hrow₂, -⟩ := hs.lb? hrow₁
        rw [run_bind_reading fun _ => uses_currentOperatingStatuses env (some row)]
        exact ⟨hadded, hs, hn, .inr ⟨up, status, hup, hoff,
          statusWritten (hs.wellFormed hw₁) hrow₂ info.id (some status)⟩⟩
      have hplain : ∀ status, (up = false ↔ status = OFFLINE) →
          ∃ nb₂, MemberCreated env info key value row nb nb₁ nb₂
            (((updateExternalIdsMemberStatus (some row) info.id (some status) >>= fun _ =>
              currentOperatingStatuses env (some row)) : Nbctl Status).run Nb.apply nb₁).2 :=
        fun status hoff => ⟨nb₁, hwrite nb₁ status (.refl _) (fun _ => rfl) hoff⟩
      cases up with
      | false => exact hplain OFFLINE (by decide)
      | true =>
          rcases res with e | _ | text
          · exact hplain ERROR (by decide)
          · exact hplain NO_MONITOR (by decide)
          · simp only [Bool.not_true, Bool.false_eq_true, if_false, Prog.run_bind, run_readLb,
              live_of_lb? hrow₁]
            by_cases hmon₁ : row₁.healthCheck = []
            · simp only [hmon₁, ne_eq, not_true_eq_false, if_false]
              exact hplain NO_MONITOR (by decide)
            · have hmon' : row.healthCheck ≠ [] := fun h => hmon₁ (hmon h)
              simp only [ne_eq, hmon₁, not_false_iff, if_true, Prog.run_bind]
              have hs := (peripheral_newMemberStatus env row key text).sameObjects nb₁
              rcases hr : (newMemberStatus env row key text).run Nb.apply nb₁ with ⟨e | status, nb₂⟩
              · rw [hr] at hs
                exact ⟨nb₂, hadded, hs, fun h => absurd h hmon', .inl ⟨rfl, .inr ⟨hup, hmon'⟩⟩⟩
              · rw [hr] at hs
                have hne := newMemberStatus_ne_offline hr
                have hcreated := hwrite nb₂ status hs (fun h => absurd h hmon') (by simp [hne])
                simp only [Prog.run_bind] at hcreated
                exact ⟨nb₂, hcreated⟩

end Adding

section Removing
variable {nb : Nb} {env : Env}

/-- How removing a member from a pool value ends. -/
inductive Removed (env : Env) (info : MemberInfo) (key value : Str) (row : LoadBalancer)
    (nb : Nb) : Nb → Prop
  | incomplete {e : Exc} (h : getMemberInfo info = .error e) :
      Removed env info key value row nb nb
  | absent {text : Str} {nb₁ : Nb} (h : getMemberInfo info = .ok text)
      (hm : text ∉ value.splitOn ',') (hs : nb.SameObjects nb₁)
      (hn : row.healthCheck = [] → nb₁ = nb) : Removed env info key value row nb nb₁
  | unmapped {text : Str} {e : Exc} {nb₁ : Nb} (h : getMemberInfo info = .ok text)
      (hmon : row.healthCheck ≠ [])
      (hr : (updateHmMember env row key (info.address.getD []) true).run Nb.apply nb =
        (.error e, nb₁)) : Removed env info key value row nb nb₁
  | unframed {text : Str} {e : Exc} {nb₀ : Nb} {row₀ : LoadBalancer}
      (h : getMemberInfo info = .ok text) (hm : text ∈ value.splitOn ',')
      (hs : nb.SameObjects nb₀) (hrow₀ : nb₀.lb? row.uuid = some row₀)
      (hf : frameVipIps env row₀.externalIds (row.externalIds.set key
        (Str.join ',' ((value.splitOn ',').erase text))) = .error e) :
      Removed env info key value row nb nb₀
  | removed {text : Str} {vips : Dict Str Str} {nb₀ nb₁ : Nb} {row₀ : LoadBalancer}
      (h : getMemberInfo info = .ok text) (hm : text ∈ value.splitOn ',')
      (hs : nb.SameObjects nb₀) (hrow₀ : nb₀.lb? row.uuid = some row₀)
      (hn : row.healthCheck = [] → nb₀ = nb)
      (hf : frameVipIps env row₀.externalIds (row.externalIds.set key
        (Str.join ',' ((value.splitOn ',').erase text))) = .ok vips)
      (hs₁ : (nb₀.putLb { row₀ with
        externalIds := row₀.externalIds.set key (Str.join ',' ((value.splitOn ',').erase text))
        vips }).SameObjects nb₁)
      (hn₁ : row.healthCheck = [] →
        nb₁ = ((updateLbToLsAssociation env row
          { subnetId := info.subnetId, associate := false }).run Nb.apply (nb₀.putLb { row₀ with
            externalIds := row₀.externalIds.set key
              (Str.join ',' ((value.splitOn ',').erase text))
            vips })).2) :
      Removed env info key value row nb nb₁

theorem Removed.row (hw : nb.WellFormed) {info : MemberInfo} {key value : Str} {row : LoadBalancer}
    (hrow : nb.lb? row.uuid = some row) {nb₁ : Nb} (h : Removed env info key value row nb nb₁) :
    nb₁.WellFormed ∧ ∃ row₁, nb₁.lb? row.uuid = some row₁ ∧
      (row.healthCheck = [] → row₁.healthCheck = []) := by
  have hsame : ∀ {nb₁ : Nb}, nb.SameObjects nb₁ → nb₁.WellFormed ∧
      ∃ row₁, nb₁.lb? row.uuid = some row₁ ∧ (row.healthCheck = [] → row₁.healthCheck = []) := by
    intro nb₁ hs
    obtain ⟨row₁, hrow₁, hr⟩ := hs.lb? hrow
    exact ⟨hs.wellFormed hw, row₁, hrow₁, hr.unmonitored⟩
  cases h with
  | incomplete h => exact hsame (.refl nb)
  | absent h hm hs hn => exact hsame hs
  | unmapped h hmon hr =>
      have hs := (peripheral_updateHmMember env row key (info.address.getD []) true).sameObjects nb
      rw [hr] at hs
      exact hsame hs
  | unframed h hm hs hrow₀ hf => exact hsame hs
  | @removed text vips nb₀ nb₁ row₀ h hm hs hrow₀ hn hf hs₁ hn₁ =>
      obtain ⟨hw₀, row₀', hrow₀', hmon₀⟩ := hsame hs
      rw [hrow₀] at hrow₀'
      cases hrow₀'
      have hu : row₀.uuid = row.uuid := (Nb.lb?_eq_some hrow₀).2
      have hput := Nb.lb?_putLb { row₀ with
        externalIds := row₀.externalIds.set key (Str.join ',' ((value.splitOn ',').erase text))
        vips } (hu.symm ▸ hrow₀)
      obtain ⟨row₁, hrow₁, hsame₁⟩ := hs₁.lb? hput
      exact ⟨hs₁.wellFormed (hw₀.putLb _), row₁, hu ▸ hrow₁, hsame₁.unmonitored ∘ hmon₀⟩

/-- The member leaves the pool value, then the row its switch. -/
theorem removeMember_removed (env : Env) (hw : nb.WellFormed) {row : LoadBalancer}
    (hrow : nb.lb? row.uuid = some row) {key value : Str}
    (hv : row.externalIds.get? key = some value) (info : MemberInfo) :
    Removed env info key value row nb
      ((removeMember env info (some row) key).run Nb.apply nb).2 := by
  simp only [removeMember, Prog.run_bind, run_readLb, live_of_lb? hrow, hv, Prog.run_ofExcept]
  cases hi : getMemberInfo info with
  | error e => exact .incomplete hi
  | ok text =>
      dsimp only
      by_cases hm : text ∈ value.splitOn ','
      · rw [if_pos hm]
        simp only [Prog.run_bind, run_readLb, live_of_lb? hrow]
        have hrest : ∀ nb₀ row₀, nb.SameObjects nb₀ → nb₀.lb? row.uuid = some row₀ →
            (row.healthCheck = [] → nb₀ = nb) → Removed env info key value row nb
              ((removeMemberOn env row key row.externalIds ((value.splitOn ',').erase text) >>=
                fun _ => updateLbToLsAssociation env row
                  { subnetId := info.subnetId, associate := false }).run Nb.apply nb₀).2 := by
          intro nb₀ row₀ hs hrow₀ hn
          simp only [Prog.run_bind, run_removeMemberOn (hs.wellFormed hw) hrow₀]
          cases hf : frameVipIps env row₀.externalIds (row.externalIds.set key
              (Str.join ',' ((value.splitOn ',').erase text))) with
          | error e => exact .unframed hi hm hs hrow₀ hf
          | ok vips =>
              have hper := peripheral_updateLbToLsAssociation env row
                { subnetId := info.subnetId, associate := false }
              exact .removed hi hm hs hrow₀ hn hf (hper.sameObjects _) fun _ => rfl
        by_cases hmon : row.healthCheck = []
        · simp only [hmon, ne_eq, not_true_eq_false, if_false]
          have := hrest nb row (.refl nb) hrow fun _ => rfl
          simpa only [Prog.run_bind] using this
        · simp only [ne_eq, hmon, not_false_iff, if_true, Prog.run_bind]
          have hs := sameObjects_run
            (peripheral_updateHmMember env row key (info.address.getD []) true).peripheral nb
          rcases hr : (updateHmMember env row key (info.address.getD []) true).run Nb.apply nb with
            ⟨e | s, nb₀⟩
          · exact .unmapped hi hmon hr
          · rw [hr] at hs
            obtain ⟨row₀, hrow₀, -⟩ := hs.lb? hrow
            have := hrest nb₀ row₀ hs hrow₀ fun h => absurd h hmon
            simpa only [Prog.run_bind] using this
      · rw [if_neg hm]
        exact .absent hi hm (.refl nb) fun _ => rfl

/-- A request on a pool that is not found changes nothing. -/
theorem handled_memberDelete_of_none {info : MemberInfo}
    (h : info.poolId = none ∨ ∃ poolId key, info.poolId = some poolId ∧
      nb.poolRow poolId = (key, none)) : handled env (.memberDelete info) nb = nb := by
  rw [handled_eq, handle, run_map_some, memberDelete]
  rcases h with hp | ⟨poolId, key, hp, hrow⟩
  · rw [hp]; rfl
  · rw [hp]
    simp only [Prog.run_bind, run_findOvnLbByPoolId, hrow, Prog.run_attempt]
    rfl

/-- What `memberDelete` does on a monitored row once the member is off its pool. -/
def releaseHmPort (env : Env) (row : LoadBalancer) (subnetId : Option Str) : Nbctl Unit :=
  match subnetId with
  | none => throw .keyError
  | some subnetId => do
      let used ← Prog.ofExcept (membersInSubnet row.externalIds subnetId)
      if !used then cleanUpHmPort env subnetId

theorem handled_memberDelete (env : Env) (hw : nb.WellFormed) {info : MemberInfo}
    {poolId key value : Str}
    {row : LoadBalancer} (hp : info.poolId = some poolId)
    (hfound : nb.poolRow poolId = (key, some row)) (hv : row.externalIds.get? key = some value) :
    ∃ nb₁ nb₂, Removed env info key value row nb nb₁ ∧ nb₁.SameObjects nb₂ ∧
      (row.healthCheck = [] → nb₂ = nb₁) ∧
      StatusWritten row.uuid info.id none nb₂ (handled env (.memberDelete info) nb) := by
  have hrow := hw.lb?_of_mem (Nb.poolRow_eq_some hfound).1
  have hremoved := removeMember_removed env hw hrow hv info
  obtain ⟨hw₁, row₁, hrow₁, hmon⟩ := hremoved.row hw hrow
  rw [handled_eq, handle, run_map_some, memberDelete, hp]
  simp only [Prog.run_bind, run_findOvnLbByPoolId, hfound, Prog.run_attempt]
  generalize (removeMember env info (some row) key).run Nb.apply nb = r at hremoved hw₁ hrow₁
  obtain ⟨res, nb₁⟩ := r
  refine ⟨nb₁, ?_⟩
  -- after the removal only the status is left, whatever the removal came to
  have hwrite : ∀ (nb₂ : Nb) (f : Status → Status), nb₁.SameObjects nb₂ →
      StatusWritten row.uuid info.id none nb₂
        (((updateExternalIdsMemberStatus (some row) info.id none >>= fun _ =>
          currentOperatingStatuses env (some row) >>= fun status =>
            pure (f status)) : Nbctl Status).run Nb.apply nb₂).2 := by
    intro nb₂ f hs
    obtain ⟨row₂, hrow₂, -⟩ := hs.lb? hrow₁
    have hread : (currentOperatingStatuses env (some row) >>= fun status =>
        pure (f status) : Nbctl Status).Uses fun _ => False :=
      .bind (uses_currentOperatingStatuses env (some row)) fun _ => .pure _
    rw [run_bind_reading fun _ => hread]
    exact statusWritten (hs.wellFormed hw₁) hrow₂ info.id none
  rcases res with e | _
  · have := hwrite nb₁ (fun s => ⟨s.loadbalancers, s.listeners, s.pools,
      some (deletedMember info.id ERROR), s.healthmonitors⟩) (.refl nb₁)
    simp only [Prog.run_bind] at this
    exact ⟨nb₁, hremoved, .refl nb₁, fun _ => rfl, this⟩
  · simp only [run_readLb, live_of_lb? hrow₁]
    by_cases hmon₁ : row₁.healthCheck = []
    · simp only [hmon₁, ne_eq, not_true_eq_false, if_false]
      have := hwrite nb₁ (fun s => ⟨s.loadbalancers, s.listeners, s.pools,
        some (deletedMember info.id DELETED), s.healthmonitors⟩) (.refl nb₁)
      simp only [Prog.run_bind] at this
      exact ⟨nb₁, hremoved, .refl nb₁, fun _ => rfl, this⟩
    · simp only [ne_eq, hmon₁, not_false_iff, if_true]
      have hmon' : row.healthCheck ≠ [] := fun h => hmon₁ (hmon h)
      have hper : PeripheralOn row.uuid (releaseHmPort env row₁ info.subnetId) := by
        unfold releaseHmPort
        cases info.subnetId with
        | none => exact .throw _
        | some subnetId =>
            refine .bind (.ofExcept _) fun used => ?_
            split
            · exact peripheral_cleanUpHmPort env subnetId
            · exact .pure _
      have hs := hper.sameObjects nb₁
      have := hwrite ((releaseHmPort env row₁ info.subnetId).run Nb.apply nb₁).2
        (fun s => ⟨s.loadbalancers, s.listeners, s.pools, some (deletedMember info.id
          (if ((releaseHmPort env row₁ info.subnetId).run Nb.apply nb₁).1.isOk then DELETED
            else ERROR)), s.healthmonitors⟩) hs
      simp only [Prog.run_bind] at this
      exact ⟨_, hremoved, hs, fun h => absurd h hmon', this⟩

end Removing

section Updating
variable {nb : Nb} {env : Env}

/-- A request on a pool that is not found changes nothing. -/
theorem handled_memberUpdate_of_none {info : MemberInfo}
    (h : info.poolId = none ∨ ∃ poolId key, info.poolId = some poolId ∧
      nb.poolRow poolId = (key, none)) : handled env (.memberUpdate info) nb = nb := by
  rw [handled_eq, handle, run_map_some, memberUpdate]
  rcases h with hp | ⟨poolId, key, hp, hrow⟩
  · rw [hp]; rfl
  · rw [hp]
    simp only [Prog.run_bind, run_findOvnLbByPoolId, hrow, memberUpdateStatus]
    rfl

/-- Whether a status change takes a member out of the traffic or into it. -/
def IsToggled (lastStatus status : Str) : Prop :=
  (lastStatus ≠ OFFLINE ∧ status = OFFLINE) ∨ (lastStatus = OFFLINE ∧ status ≠ OFFLINE)

/-- An update writes the status and, when it counts for the traffic, the map. -/
theorem handled_memberUpdate (env : Env) (info : MemberInfo) (hw : nb.WellFormed) {poolId key : Str}
    {row : LoadBalancer} {statuses : Dict Str Str} (hp : info.poolId = some poolId)
    (hfound : nb.poolRow poolId = (key, some row))
    (hs : loadMemberStatuses row.externalIds = .ok statuses) {up : Bool}
    (hup : info.adminStateUp = some up) {lastStatus status : Str} {e : Dict Str Str}
    (hlast : lastStatus = (statuses.get? info.id).getD NO_MONITOR)
    (hstatus : status = updatedStatus row lastStatus up)
    (he : e = withStatuses row.externalIds (statuses.set info.id status)) :
    (¬IsToggled lastStatus status ∧
        handled env (.memberUpdate info) nb = nb.putLb { row with externalIds := e }) ∨
      IsToggled lastStatus status ∧
        ((∃ x, frameVipIps env e e = .error x) ∧
            handled env (.memberUpdate info) nb = nb.putLb { row with externalIds := e } ∨
          ∃ vips, frameVipIps env e e = .ok vips ∧
            handled env (.memberUpdate info) nb =
              nb.putLb { row with externalIds := e, vips }) := by
  have hrow := hw.lb?_of_mem (Nb.poolRow_eq_some hfound).1
  have hread : (readMemberStatus row info.id).run Nb.apply nb = (.ok lastStatus, nb) := by
    simp only [readMemberStatus, Prog.run_bind, run_readLb, live_of_lb? hrow, findMemberStatus, hs,
      Prog.run_ofExcept, hlast]
    rfl
  have hput := Nb.lb?_putLb { row with externalIds := e } hrow
  have hlive : row.live (nb.putLb { row with externalIds := e }) = { row with externalIds := e } :=
    live_of_lb? hput
  have hwrite := run_updateExternalIdsMemberStatus hw hrow hs info.id (some status)
  simp only [withStatus, ← he] at hwrite
  -- the commands of a refresh replace the map of the row just written
  have hrefresh : ∀ vips, (executeCommands [.lbUpdate row.uuid .clearVips,
      .lbUpdate row.uuid (.setVips vips)]).run Nb.apply (nb.putLb { row with externalIds := e }) =
        (.ok (), nb.putLb { row with externalIds := e, vips }) := by
    intro vips
    have := run_executeUpdates (hw.putLb _) hput [.clearVips, .setVips vips] rfl
    rw [Nb.putLb_putLb (by rfl)] at this
    simpa [LbOp.apply] using this
  rw [handled_eq, handle, run_map_some, memberUpdate, hp]
  simp only [Prog.run_bind, run_findOvnLbByPoolId, hfound, memberUpdateStatus, Prog.run_attempt,
    hread, hup, run_readLb, live_of_lb? hrow, ← hstatus, memberUpdateOn, hwrite]
  by_cases ht : IsToggled lastStatus status
  · right
    have ht' := ht
    rw [IsToggled] at ht'
    refine ⟨ht, ?_⟩
    rw [if_pos ht']
    simp only [Prog.run_bind, run_readLb, run_refreshLbVips, hlive]
    cases hf : frameVipIps env e e with
    | error x =>
        left
        refine ⟨⟨x, rfl⟩, ?_⟩
        have := run_statusOf env (some row) (nb.putLb { row with externalIds := e })
        simp only [Prog.run_bind] at this
        exact this _
    | ok vips =>
        right
        refine ⟨vips, rfl, ?_⟩
        have := run_statusOf env (some row) (nb.putLb { row with externalIds := e, vips })
        simp only [Prog.run_bind] at this
        simp only [Except.map, Bool.false_and, Bool.false_eq_true, if_false, hrefresh]
        exact this _
  · left
    have ht' := ht
    rw [IsToggled] at ht'
    refine ⟨ht, ?_⟩
    rw [if_neg ht']
    have := run_statusOf env (some row) (nb.putLb { row with externalIds := e })
    simp only [Prog.run_bind] at this
    exact this _

/-- Without an admin state an update changes nothing. -/
theorem handled_memberUpdate_of_no_state {info : MemberInfo} (hup : info.adminStateUp = none) :
    handled env (.memberUpdate info) nb = nb := by
  have huses : (memberUpdate env info).Uses fun _ => False := by
    unfold memberUpdate
    cases info.poolId with
    | none => exact .throw _
    | some poolId =>
        have hfind : ∀ key, (findOvnLbWithPoolKey key).Uses fun _ => False :=
          fun key => .read fun _ => .pure _
        refine .bind (.bind (hfind _) fun found => ?_) fun found => ?_
        · cases found with
          | some lb => exact .pure _
          | none => exact .bind (hfind _) fun _ => .pure _
        · refine .bind ?_ fun _ => .bind (uses_currentOperatingStatuses env _) fun _ => .pure _
          unfold memberUpdateStatus
          cases found.2 with
          | none => exact .pure _
          | some lb =>
              refine .bind (.attempt (.bind (.read fun _ => .pure _) fun _ => .ofExcept _))
                fun last => ?_
              rw [hup]
              cases last with
              | error e => exact .pure _
              | ok s => exact .pure _
  rw [handled_eq, handle, run_map_some]
  exact huses.run_eq_of_none nb

end Updating

end OvnOctavia

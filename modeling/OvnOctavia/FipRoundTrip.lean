import OvnOctavia.HealthChecks
import OvnOctavia.Traffic

/-!
A floating IP that is associated with a load balancer row and taken away again, and one
that is associated twice. A floating IP in a list with others stays in the copy of the
keys its removal frames, and of several copied health checks only the first is removed.
-/

namespace OvnOctavia

section Checks
variable {nb : Nb} {row row' : LoadBalancer} {u : Nat}

/-- The copies of the given health checks are linked to the row, in order. -/
theorem Watched.run_copies (h : Watched nb row) {lb : LoadBalancer} (hlb : lb.uuid = row.uuid)
    {fip : Str} (hfip : fip ≠ []) (l : List HealthCheck) :
    ∃ nb' us copies, (Prog.each (fun hc => Prog.transaction [copyLbhc lb fip hc]) l).run
        Nb.apply nb = (.ok (), nb') ∧
      Watched nb' { row with healthCheck := row.healthCheck ++ us } ∧
      nb'.checksOf { row with healthCheck := row.healthCheck ++ us } = nb.checksOf row ++ copies ∧
      copies.length = l.length ∧ (∀ c ∈ copies, getVipLbhc c = fip) ∧ (l = [] → nb' = nb) := by
  induction l generalizing nb row with
  | nil =>
      refine ⟨nb, [], [], rfl, ?_, ?_, rfl, nofun, fun _ => rfl⟩
      · rw [List.append_nil]
        exact h
      · rw [List.append_nil, List.append_nil]
  | cons hc l ih =>
      obtain ⟨c, fip', hc'⟩ := List.exists_cons_of_ne_nil hfip
      generalize hvip : (if checkLbhcVipFormat hc.vip then
        addressPort fip ((hc.vip.splitOn ':').getLastD []) else []) = vip
      obtain ⟨hnext, hchecks⟩ := h.withCheck vip hc.options (hc.externalIds.set lbExtIdsHmVip fip)
      obtain ⟨nb', us, copies, hrun, hlast, hall, hlen, hmade, -⟩ :=
        ih hnext hlb
      refine ⟨nb', nb.nextUuid :: us,
        ⟨nb.nextUuid, vip, hc.options, hc.externalIds.set lbExtIdsHmVip fip⟩ :: copies,
        ?_, ?_, ?_, ?_, fun c hm => ?_, nofun⟩
      · have happly := h.apply_hcCreate vip hc.options (hc.externalIds.set lbExtIdsHmVip fip)
        have hone : (Prog.transaction [copyLbhc lb fip hc] : Nbctl Unit).run Nb.apply nb =
            (.ok (), nb.withCheck row vip hc.options (hc.externalIds.set lbExtIdsHmVip fip)) := by
          rw [Prog.run_transaction, Prog.transact_cons, copyLbhc, hvip, hlb, happly]
          rfl
        refine (Prog.run_bind _ _ _ _).trans ?_
        rw [hone]
        exact hrun
      · simpa only [List.append_assoc, List.singleton_append] using hlast
      · simpa only [List.append_assoc, List.singleton_append, hchecks] using hall
      · rw [List.length_cons, List.length_cons, hlen]
      · rcases List.mem_cons.mp hm with rfl | hm
        · simp only [getVipLbhc, Dict.get?_set_self, hc']
        · exact hmade c hm

/-- What removing a floating IP leaves of the health checks: of those for it, the first
goes. -/
def withoutCheck (fip : Str) (checks : List HealthCheck) : List HealthCheck :=
  match checks.find? fun hc => getVipLbhc hc = fip with
  | some hc => checks.filter (·.uuid ≠ hc.uuid)
  | none => checks

/-- Copies for a new floating IP are gone again when there is at most one. -/
theorem perm_withoutCheck {fip : Str} {checks copies : List HealthCheck}
    (hchecks : ∀ hc ∈ checks, getVipLbhc hc ≠ fip) (hcopies : ∀ c ∈ copies, getVipLbhc c = fip)
    (hn : ((checks ++ copies).map HealthCheck.uuid).Nodup) :
    (withoutCheck fip (checks ++ copies)).Perm checks ↔ copies.length ≤ 1 := by
  have hnone : checks.find? (fun hc => getVipLbhc hc = fip) = none := by
    rw [List.find?_eq_none]
    intro hc hm
    simpa using hchecks hc hm
  cases copies with
  | nil => simp [withoutCheck, hnone]
  | cons c copies =>
      rw [List.map_append, List.nodup_append, List.map_cons, List.nodup_cons] at hn
      obtain ⟨-, ⟨hc, -⟩, hne⟩ := hn
      have hkept : checks.filter (·.uuid ≠ c.uuid) = checks := by
        rw [List.filter_eq_self]
        intro x hx
        simpa using hne _ (List.mem_map_of_mem hx) _ (List.mem_cons_self ..)
      have hrest : copies.filter (·.uuid ≠ c.uuid) = copies := by
        rw [List.filter_eq_self]
        intro x hx
        have : x.uuid ≠ c.uuid := fun he => hc (he ▸ List.mem_map_of_mem hx)
        simpa using this
      have heq : withoutCheck fip (checks ++ c :: copies) = checks ++ copies := by
        rw [withoutCheck, List.find?_append, hnone, Option.none_or,
          List.find?_cons_of_pos (by simpa using hcopies c (List.mem_cons_self ..))]
        simp only [List.filter_append, hkept]
        rw [List.filter_cons_of_neg (by simp), hrest]
      rw [heq]
      constructor
      · intro hp
        have := hp.length_eq
        rw [List.length_append] at this
        rw [List.length_cons]
        omega
      · intro hlen
        rw [List.length_cons] at hlen
        have : copies = [] := List.length_eq_zero_iff.mp (by omega)
        rw [this, List.append_nil]

/-- The row with new traffic, without the health check when there is one to drop. -/
def Nb.leave (nb : Nb) (row : LoadBalancer) (vips : Dict Str Str) : Option HealthCheck → Nb
  | some hc => ((nb.putLb row).dropCheck row hc.uuid).putLb
      { row with vips, healthCheck := row.healthCheck.filter (· ≠ hc.uuid) }
  | none => nb.putLb { row with vips }

/-- The transaction that takes a floating IP away: the row is written, a health check may be
dropped, and the row is written again. -/
theorem Watched.run_leave (h : Watched nb row) {ops : List LbOp}
    (hops : (ops.foldl LbOp.apply row).healthCheck = row.healthCheck) (vips : Dict Str Str)
    (found : Option HealthCheck) (hfound : ∀ hc, found = some hc → nb.hc? hc.uuid = some hc) :
    (executeCommands (ops.map (.lbUpdate row.uuid) ++
        dropCheckCommands row.uuid found ++
        [.lbUpdate row.uuid .clearVips, .lbUpdate row.uuid (.setVips vips)])).run Nb.apply nb =
      (.ok (), nb.leave (ops.foldl LbOp.apply row) vips found) := by
  have hfirst := Nb.transact_row h.wellFormed h.found ops rfl
  have hu : (ops.foldl LbOp.apply row).uuid = row.uuid := LbOp.uuid_foldl_apply ops row
  generalize ops.foldl LbOp.apply row = mid at hfirst hops hu
  have hw := (h.putLb mid hu hops).1
  have hlast : ∀ {s : Nb} {r : LoadBalancer}, s.WellFormed → s.lb? row.uuid = some r →
      Prog.transact Nb.apply
        [.lbUpdate row.uuid .clearVips, .lbUpdate row.uuid (.setVips vips)] s =
          .ok (s.putLb { r with vips }) := by
    intro s r hs hr
    have hput := Nb.transact_row hs hr [.clearVips, .setVips vips] rfl
    simpa [LbOp.apply] using hput
  rw [run_executeCommands, List.append_assoc, Prog.transact_append, hfirst]
  cases found with
  | none =>
      have hput := hlast hw.wellFormed (hu ▸ hw.found)
      rw [Nb.putLb_putLb (by rfl)] at hput
      simp only [dropCheckCommands, List.nil_append, Except.bind, hput, Nb.leave]
  | some hc =>
      have hget : (nb.putLb mid).hc? hc.uuid = some hc := hfound hc rfl
      have hdrop := hw.transact_dropCheck hget
      have hw' := (hw.dropCheck hc.uuid).1
      have hput := hlast (r := { mid with healthCheck := mid.healthCheck.filter (· ≠ hc.uuid) })
        hw'.wellFormed (by rw [← hu]; exact hw'.found)
      rw [hu] at hdrop
      simp only [dropCheckCommands, Except.bind, Prog.transact_append, hdrop, Nb.leave]
      rw [hput]

/-- What the removal of a floating IP leaves of the row and of its health checks. -/
theorem Watched.run_dropCheck (h : Watched nb row) (fip : Str) {ops : List LbOp}
    (hops : (ops.foldl LbOp.apply row).healthCheck = row.healthCheck) (vips : Dict Str Str) :
    ∃ nb' row', (executeCommands (ops.map (.lbUpdate row.uuid) ++
        dropCheckCommands row.uuid ((nb.checksOf row).find? fun hc => getVipLbhc hc = fip) ++
        [.lbUpdate row.uuid .clearVips, .lbUpdate row.uuid (.setVips vips)])).run Nb.apply nb =
          (.ok (), nb') ∧
      nb'.lb? row.uuid = some row' ∧
      row'.externalIds = (ops.foldl LbOp.apply row).externalIds ∧ row'.vips = vips ∧
      nb'.checksOf row' = withoutCheck fip (nb.checksOf row) := by
  have hu : (ops.foldl LbOp.apply row).uuid = row.uuid := LbOp.uuid_foldl_apply ops row
  have hleave := h.run_leave hops vips ((nb.checksOf row).find? fun hc => getVipLbhc hc = fip)
  generalize ops.foldl LbOp.apply row = mid at hleave hops hu
  obtain ⟨hw, hchecks⟩ := h.putLb mid hu hops
  rw [withoutCheck]
  cases hfind : (nb.checksOf row).find? fun hc => getVipLbhc hc = fip with
  | none =>
      rw [hfind] at hleave
      refine ⟨_, { mid with vips }, hleave nofun, ?_, rfl, rfl, ?_⟩
      · exact hu ▸ Nb.lb?_putLb { mid with vips }
          (show nb.lb? mid.uuid = some row from hu ▸ h.found)
      · exact checksOf_of_hc? (fun _ _ => rfl) hops
  | some hc =>
      rw [hfind] at hleave
      obtain ⟨x, -, hget⟩ := List.mem_filterMap.mp (List.mem_of_find?_eq_some hfind)
      obtain ⟨-, rfl⟩ := Nb.hc?_eq_some hget
      obtain ⟨hw', hchecks'⟩ := hw.dropCheck hc.uuid
      obtain ⟨hw'', hchecks''⟩ := hw'.putLb { mid with
        vips, healthCheck := mid.healthCheck.filter (· ≠ hc.uuid) } rfl rfl
      refine ⟨_, { mid with vips, healthCheck := mid.healthCheck.filter (· ≠ hc.uuid) },
        hleave ?_, hu ▸ hw''.found, rfl, rfl, ?_⟩
      · rintro _ ⟨⟩
        exact hget
      · exact (hchecks''.trans hchecks').trans (congrArg _ hchecks)

end Checks

section Keys
variable {env : Env} {e : Dict Str Str} {add : Bool} {f : Str}

def fipKey (add : Bool) : Str := if add then lbExtIdsAdditVipFipKey else lbExtIdsVipFipKey

/-- The value of the key of a floating IP once `f` is associated. -/
def fipValue (add : Bool) (f : Str) (e : Dict Str Str) : Str :=
  match add, e.get? lbExtIdsAdditVipFipKey with
  | true, some fips => fips ++ ',' :: f
  | _, _ => f

/-- A floating IPv4 address that can be associated: its place is free or its own. -/
structure Associable (env : Env) (e : Dict Str Str) (add : Bool) (f : Str) : Prop where
  version : env.ipVersion f = some .v4
  ne_nil : f ≠ []
  comma : ',' ∉ f
  bracket : '[' ∉ f
  slot : if add then e.get? lbExtIdsAdditVipFipKey ≠ some []
    else ∀ g, e.get? lbExtIdsVipFipKey = some g → g = f

theorem Associable.associated {info : FipInfo}
    (h : Associable env e info.additionalVipFip info.vipFip) : associatedFip info e =
      .ok (fipKey info.additionalVipFip, fipValue info.additionalVipFip info.vipFip e) := by
  have hslot := h.slot
  cases hadd : info.additionalVipFip with
  | false => simp [associatedFip, fipKey, fipValue, hadd]
  | true =>
      rw [hadd, if_pos rfl] at hslot
      rcases hget : e.get? lbExtIdsAdditVipFipKey with _ | _ | ⟨c, fips⟩
      · simp [associatedFip, fipKey, fipValue, hadd, hget]
      · exact absurd hget hslot
      · simp [associatedFip, fipKey, fipValue, hadd, hget]

/-- The additional floating IPs of the keys. -/
def additFips (e : Dict Str Str) : List Str :=
  match e.get? lbExtIdsAdditVipFipKey with
  | some (c :: fips) => (c :: fips).splitOn ','
  | _ => []

theorem mem_lbFips {a : Str} : a ∈ lbFips e ↔
    (e.get? lbExtIdsVipFipKey = some a ∧ a ≠ []) ∨ a ∈ additFips e := by
  rw [lbFips, List.mem_append]
  refine or_congr ?_ Iff.rfl
  rcases e.get? lbExtIdsVipFipKey with _ | _ | ⟨c, fip⟩
  · simp
  · simp
  · simp only [List.mem_singleton, Option.some.injEq]
    constructor
    · rintro rfl
      exact ⟨rfl, List.cons_ne_nil _ _⟩
    · rintro ⟨rfl, -⟩
      rfl

theorem Associable.additFips_set (h : Associable env e true f) :
    additFips (e.set (fipKey true) (fipValue true f e)) = additFips e ++ [f] := by
  have hslot := h.slot
  rw [if_pos rfl] at hslot
  obtain ⟨c, f', hf⟩ := List.exists_cons_of_ne_nil h.ne_nil
  simp only [additFips, fipKey, if_true, Dict.get?_set_self, fipValue]
  rcases hget : e.get? lbExtIdsAdditVipFipKey with _ | _ | ⟨b, fips⟩
  · simp only [hf, List.nil_append]
    exact List.splitOn_eq_singleton (hf ▸ h.comma)
  · exact absurd hget hslot
  · simp only [List.cons_append]
    rw [← List.cons_append, List.splitOn_append_cons_self, List.splitOn_eq_singleton h.comma]

theorem Associable.mem_lbFips_set (h : Associable env e add f) {a : Str} :
    a ∈ lbFips (e.set (fipKey add) (fipValue add f e)) ↔ a ∈ lbFips e ∨ a = f := by
  have hslot := h.slot
  cases add with
  | false =>
      have hadd : additFips (e.set (fipKey false) (fipValue false f e)) = additFips e := by
        rw [additFips, additFips, Dict.get?_set_of_ne _ _ (by decide)]
      rw [if_neg Bool.false_ne_true] at hslot
      rw [mem_lbFips, mem_lbFips, hadd]
      simp only [fipKey, fipValue, Bool.false_eq_true, if_false, Dict.get?_set_self]
      constructor
      · rintro (⟨he, -⟩ | hm)
        · exact .inr (Option.some.inj he).symm
        · exact .inl (.inr hm)
      · rintro ((⟨he, hne⟩ | hm) | rfl)
        · exact .inl ⟨congrArg some (hslot a he).symm, hne⟩
        · exact .inr hm
        · exact .inl ⟨rfl, h.ne_nil⟩
  | true =>
      rw [mem_lbFips, mem_lbFips, h.additFips_set, List.mem_append, List.mem_singleton, or_assoc,
        Dict.get?_set_of_ne _ _ (by decide)]

theorem fipKey_mem_base (add : Bool) : fipKey add ∈ baseKeys := by
  cases add <;> decide

theorem get?_set_fip {k : Str} (hk : k ∉ baseKeys) (add : Bool) (value : Str) :
    (e.set (fipKey add) value).get? k = e.get? k :=
  Dict.get?_set_of_ne _ _ fun h => hk (h ▸ fipKey_mem_base add)

theorem lbVips_set_fip (value : Str) : lbVips (e.set (fipKey add) value) = lbVips e := by
  have hvip : lbExtIdsVipKey ≠ fipKey add := by cases add <;> decide
  have haddit : lbExtIdsAdditVipKey ≠ fipKey add := by cases add <;> decide
  rw [lbVips, lbVips, Dict.get?_set_of_ne _ _ hvip, Dict.get?_set_of_ne _ _ haddit]

theorem enabled_set_fip (value : Str) :
    (e.set (fipKey add) value).get? enabledKey = e.get? enabledKey :=
  Dict.get?_set_of_ne _ _ (by cases add <;> decide)

theorem statuses_set_fip (value : Str) :
    loadMemberStatuses (e.set (fipKey add) value) = loadMemberStatuses e := by
  rw [loadMemberStatuses, loadMemberStatuses,
    Dict.get?_set_of_ne _ _ (by cases add <;> decide)]

theorem Associable.framed (h : Associable env e add f) (hf : Framed env e) :
    Framed env (e.set (fipKey add) (fipValue add f e)) := by
  have hlistener := fun id up => get?_set_fip (e := e) (listenerKey_notMem_base id up)
    add (fipValue add f e)
  have hpool := fun id up => get?_set_fip (e := e) (poolKey_notMem_base id up)
    add (fipValue add f e)
  refine ⟨fun k hk hp => ?_, fun id v hid hv => ?_, fun k hk hp => ?_, fun id v hid hv => ?_,
    fun a ha => ?_, fun id id' n t t' hid hid' hl hl' => ?_⟩
  · rcases (Dict.mem_keys_set _ _ _ _).mp hk with rfl | hk
    · rw [hasListenerPrefix_base (fipKey_mem_base add)] at hp
      cases hp
    · exact hf.listenerKey k hk hp
  · exact hf.listener id v hid (hlistener id true ▸ hv)
  · rcases (Dict.mem_keys_set _ _ _ _).mp hk with rfl | hk
    · rw [← Str.startsWith_iff, startsWith_pool_base (fipKey_mem_base add)] at hp
      cases hp
    · exact hf.poolKey k hk hp
  · exact hf.pool id v hid (hpool id true ▸ hv)
  · rw [lbVips_set_fip, List.mem_append, h.mem_lbFips_set, ← or_assoc, ← List.mem_append] at ha
    rcases ha with ha | rfl
    · exact hf.addresses a ha
    · exact ⟨h.version ▸ rfl, h.bracket⟩
  · exact hf.ports id id' n t t' hid hid' (hlistener id true ▸ hl) (hlistener id' true ▸ hl')

theorem Associable.set (h : Associable env e add f) :
    Associable env (e.set (fipKey add) (fipValue add f e)) add f := by
  refine ⟨h.version, h.ne_nil, h.comma, h.bracket, ?_⟩
  cases add with
  | false =>
      intro g hg
      simp only [fipKey, fipValue, Bool.false_eq_true, if_false, Dict.get?_set_self,
        Option.some.injEq] at hg
      exact hg.symm
  | true =>
      simp only [fipKey, fipValue, if_true, Dict.get?_set_self]
      cases e.get? lbExtIdsAdditVipFipKey with
      | none => simp [h.ne_nil]
      | some t => simp

/-- A floating IPv4 address that the keys of a row do not have yet, with its place free. -/
structure NewFip (env : Env) (e : Dict Str Str) (add : Bool) (f : Str) : Prop where
  version : env.ipVersion f = some .v4
  ne_nil : f ≠ []
  comma : ',' ∉ f
  bracket : '[' ∉ f
  notVip : f ∉ lbVips e
  notFip : f ∉ lbFips e
  slot : if add then e.get? lbExtIdsAdditVipFipKey ≠ some [] else e.get? lbExtIdsVipFipKey = none

theorem NewFip.associable (h : NewFip env e add f) : Associable env e add f := by
  refine ⟨h.version, h.ne_nil, h.comma, h.bracket, ?_⟩
  have hslot := h.slot
  cases add with
  | false =>
      intro g hg
      rw [if_neg Bool.false_ne_true, hg] at hslot
      cases hslot
  | true => exact hslot

/-- Some enabled listener has an enabled pool with IPv4 members that take traffic. -/
def ServesV4 (env : Env) (off : Str → Bool) (e : Dict Str Str) : Prop :=
  e.get? enabledKey ≠ some (strBool false) ∧ ∃ id n x ds, IsUuid id ∧ IsUuid x ∧
    e.get? (getListenerKey id true) = some (makeListenerKeyValue n (getPoolKey x true)) ∧
    e.get? (getPoolKey x true) = some (poolValue ds) ∧ (∀ d ∈ ds, d.WellFormed env) ∧
    takers env off .v4 ds ≠ []

/-- A new floating IP changes what the traffic map holds when there is IPv4 traffic. -/
theorem NewFip.carried_iff (h : NewFip env e add f) (hf : Framed env e) (off : Str → Bool) :
    (∀ k v, Carried env off (e.set (fipKey add) (fipValue add f e)) k v ↔ Carried env off e k v) ↔
      ¬ ServesV4 env off e := by
  have hlistener := fun id => get?_set_fip (e := e) (listenerKey_notMem_base id true)
    add (fipValue add f e)
  have hpool := fun id => get?_set_fip (e := e) (poolKey_notMem_base id true)
    add (fipValue add f e)
  constructor
  · rintro hsame ⟨hup, id, n, x, ds, hid, hx, hl, hp, hds, hne⟩
    -- the entry of the floating IP is not one of before
    have hnew : Carried env off (e.set (fipKey add) (fipValue add f e))
        (addressPort (shown .v4 f) (Str.ofNat n))
        (Str.join ',' ((takers env off .v4 ds).map (backendText env))) := by
      refine ⟨(enabled_set_fip _).symm ▸ hup, id, hid, ?_⟩
      exact .entry ((hlistener id).trans hl) hx ((hpool x).trans hp) hds hne
        (.inr ⟨rfl, h.associable.mem_lbFips_set.mpr (.inr rfl)⟩) h.version
    obtain ⟨-, id', -, hc⟩ := (hsame _ _).mp hnew
    generalize hkey : addressPort (shown .v4 f) (Str.ofNat n) = k at hc
    generalize Str.join ',' ((takers env off .v4 ds).map (backendText env)) = v at hc
    cases hc with
    | @entry x' a n' ds' version hl' hx' hp' hds' hne' ha hver =>
        have hb : '[' ∉ a := (hf.addresses a (List.mem_append.mpr (ha.imp_right And.right))).2
        obtain ⟨hshown, -⟩ := addressPort_inj (colon_notMem_ofNat n) (colon_notMem_ofNat n') hkey
        obtain ⟨rfl, rfl⟩ := shown_inj h.bracket hb hshown
        exact ha.elim h.notVip fun hfip => h.notFip hfip.2
  · intro hno k v
    constructor
    · rintro ⟨hup, id, hid, hc⟩
      rw [enabled_set_fip] at hup
      refine ⟨hup, id, hid, ?_⟩
      cases hc with
      | @entry x a n ds version hl hx hp hds hne ha hver =>
          rw [hlistener] at hl
          rw [hpool] at hp
          rw [lbVips_set_fip, h.associable.mem_lbFips_set] at ha
          refine .entry hl hx hp hds hne ?_ hver
          rcases ha with ha | ⟨rfl, ha | rfl⟩
          · exact .inl ha
          · exact .inr ⟨rfl, ha⟩
          · exact absurd ⟨hup, id, n, x, ds, hid, hx, hl, hp, hds, hne⟩ hno
    · rintro ⟨hup, id, hid, hc⟩
      refine ⟨(enabled_set_fip _).symm ▸ hup, id, hid, ?_⟩
      cases hc with
      | @entry x a n ds version hl hx hp hds hne ha hver =>
          refine .entry ((hlistener id).trans hl) hx ((hpool x).trans hp) hds hne ?_ hver
          rw [lbVips_set_fip, h.associable.mem_lbFips_set]
          exact ha.imp_right fun hfip => ⟨hfip.1, .inl hfip.2⟩

end Keys

section Runs
variable {env : Env} {nb : Nb} {row : LoadBalancer} {info : FipInfo}

/-- The health checks a floating IP of the given addresses gets copies of. -/
def copied (info : FipInfo) (checks : List HealthCheck) : List HealthCheck :=
  checks.filter fun hc => getVipLbhc hc ∈ info.vipRelated

/-- What an association leaves of a row. -/
structure Associated (env : Env) (info : FipInfo) (nb : Nb) (row : LoadBalancer) (nb' : Nb)
    (row' : LoadBalancer) : Prop where
  watched : Watched nb' row'
  uuid : row'.uuid = row.uuid
  keys : row'.externalIds = row.externalIds.set (fipKey info.additionalVipFip)
    (fipValue info.additionalVipFip info.vipFip row.externalIds)
  vips : frameVipIps env row.externalIds row'.externalIds = .ok row'.vips
  checks : ∃ copies, nb'.checksOf row' = nb.checksOf row ++ copies ∧
    copies.length = (copied info (nb.checksOf row)).length ∧
    ∀ c ∈ copies, getVipLbhc c = info.vipFip
  unwatched : copied info (nb.checksOf row) = [] →
    nb' = nb.putLb { row with externalIds := row'.externalIds, vips := row'.vips }

theorem Watched.run_associate (h : Watched nb row) (info : FipInfo)
    (hlb : info.ovnLb.uuid = row.uuid)
    (haction : info.action = .associate)
    (hfip : Associable env row.externalIds info.additionalVipFip info.vipFip)
    {statuses : Dict Str Str} (hst : loadMemberStatuses row.externalIds = .ok statuses)
    (hf : Framed env row.externalIds) :
    ∃ nb' row', (handleVipFip env info).run Nb.apply nb = (.ok (), nb') ∧
      Associated env info nb row nb' row' := by
  have hfound : nb.lb? info.ovnLb.uuid = some row := hlb ▸ h.found
  obtain ⟨nb₁, us, copies, hcopies, hw₁, hchecks, hlen, hmade, hnone⟩ :=
    h.run_copies hlb hfip.ne_nil (copied info (nb.checksOf row))
  obtain ⟨vips, hok, -⟩ := (hfip.framed hf).frame_iff (isOffline statuses)
  rw [← frameVipIps_eq_off env hst] at hok
  have hfound₁ : nb₁.lb? info.ovnLb.uuid =
      some { row with healthCheck := row.healthCheck ++ us } := hlb ▸ hw₁.found
  generalize hkey : fipKey info.additionalVipFip = key at hok
  generalize hvalue : fipValue info.additionalVipFip info.vipFip row.externalIds = value at hok
  have hrun := run_executeUpdates hw₁.wellFormed hfound₁
    [.setExternalIds (.single key value), .clearVips, .setVips vips] rfl
  obtain ⟨row', hrow'⟩ : ∃ row' : LoadBalancer, row' = { row with
    healthCheck := row.healthCheck ++ us, externalIds := row.externalIds.set key value, vips } :=
      ⟨_, rfl⟩
  have hops : [LbOp.setExternalIds (.single key value), .clearVips, .setVips vips].foldl
      LbOp.apply { row with healthCheck := row.healthCheck ++ us } = row' := by
    simp [LbOp.apply, hrow']
  rw [hops] at hrun
  have hu' : row'.uuid = row.uuid := by rw [hrow']
  have hchecked : row'.healthCheck = row.healthCheck ++ us := by rw [hrow']
  obtain ⟨hw', hchecks'⟩ := hw₁.putLb _ hu' hchecked
  refine ⟨nb₁.putLb row', row', ?_, hw', by rw [hrow'], by rw [hrow', hkey, hvalue],
    by rw [hrow']; exact hok, ⟨copies, hchecks'.trans hchecks, hlen, hmade⟩, fun hcopied => ?_⟩
  · simp only [handleVipFip, Prog.run_bind, run_readLb, live_of_lb? hfound, haction, associateFip,
      hfip.associated, Prog.run_ofExcept, run_healthChecksOf hfound]
    have hne : (FipAction.associate = FipAction.sync) ↔ False := by decide
    have hmap : [LbOp.setExternalIds (.single key value), .clearVips, .setVips vips].map
        (Command.lbUpdate info.ovnLb.uuid) =
          [.lbUpdate info.ovnLb.uuid (.setExternalIds (.single key value))] ++
            [.lbUpdate info.ovnLb.uuid .clearVips, .lbUpdate info.ovnLb.uuid (.setVips vips)] := rfl
    rw [hmap] at hrun
    simp only [hne, decide_false, Bool.false_and, Bool.not_false, if_true, hkey, hvalue]
    change ((Prog.each _ (copied info (nb.checksOf row)) >>= _) : Nbctl Unit).run Nb.apply nb = _
    rw [Prog.run_bind, hcopies]
    simp only [Prog.run_bind, run_refreshLbVips, live_of_lb? hfound₁, hok, Except.map,
      Bool.false_and, Bool.false_eq_true, if_false]
    exact hrun
  · have hnil : us = [] := by
      have hcount := hw₁.length_checksOf
      rw [hchecks, List.length_append, hlen, hcopied, h.length_checksOf] at hcount
      simpa using hcount
    rw [hnone hcopied, hrow', hnil, List.append_nil]

/-- The keys the removal of a floating IP frames: its own key gone, but for a list of
others it stays in. -/
def framedAway (add : Bool) (f : Str) (e : Dict Str Str) : Dict Str Str :=
  if add ∧ e.get? lbExtIdsAdditVipFipKey ≠ none then e.set (fipKey add) (fipValue add f e) else e

/-- The change of the keys that takes a new floating IP away. -/
def leaveOp (add : Bool) (e : Dict Str Str) : LbOp :=
  match add, e.get? lbExtIdsAdditVipFipKey with
  | true, some fips => .setExternalIds (.single lbExtIdsAdditVipFipKey fips)
  | _, _ => .removeExternalId (fipKey add)

theorem NewFip.leaveOp_apply {e : Dict Str Str} {add : Bool} {f : Str} (h : NewFip env e add f)
    (hrow : row.externalIds = e.set (fipKey add) (fipValue add f e)) :
    (LbOp.apply row (leaveOp add e)).externalIds = e ∧
      (LbOp.apply row (leaveOp add e)).healthCheck = row.healthCheck := by
  have hslot := h.slot
  cases add with
  | false =>
      rw [if_neg Bool.false_ne_true] at hslot
      refine ⟨?_, rfl⟩
      simp only [leaveOp, LbOp.apply, hrow]
      exact Dict.erase_set_self _ ((Dict.get?_eq_none_iff _ _).mp hslot)
  | true =>
      cases hget : e.get? lbExtIdsAdditVipFipKey with
      | none =>
          simp only [leaveOp, hget]
          refine ⟨?_, rfl⟩
          simp only [LbOp.apply, hrow]
          exact Dict.erase_set_self _ ((Dict.get?_eq_none_iff _ _).mp hget)
      | some fips =>
          simp only [leaveOp, hget]
          refine ⟨?_, rfl⟩
          rw [LbOp.apply, hrow, Dict.update_single, fipKey, if_pos rfl, Dict.set_set_self,
            Dict.set_of_get? hget]

/-- The removal of a new floating IP once it is associated. -/
theorem NewFip.disassociate_eq {e : Dict Str Str}
    (h : NewFip env e info.additionalVipFip info.vipFip) :
    disassociateFip env info (e.set (fipKey info.additionalVipFip)
        (fipValue info.additionalVipFip info.vipFip e)) = (do
      let lbhcs ← healthChecksOf info.ovnLb
      let refresh ← refreshLbVips env info.ovnLb
        (framedAway info.additionalVipFip info.vipFip e) false
      executeCommands ([leaveOp info.additionalVipFip e].map (.lbUpdate info.ovnLb.uuid) ++
        dropCheckCommands info.ovnLb.uuid (lbhcs.find? fun hc => getVipLbhc hc = info.vipFip) ++
        refresh)) := by
  have hslot := h.slot
  have hnotVip : e.get? lbExtIdsVipFipKey ≠ some info.vipFip := fun hv =>
    h.notFip (mem_lbFips.mpr (.inl ⟨hv, h.ne_nil⟩))
  have hnotAddit : info.vipFip ∉ additFips e := fun hm => h.notFip (mem_lbFips.mpr (.inr hm))
  cases hadd : info.additionalVipFip with
  | false =>
      rw [hadd, if_neg Bool.false_ne_true] at hslot
      generalize hset : e.set (fipKey false) (fipValue false info.vipFip e) = present
      have hvip : present.get? lbExtIdsVipFipKey = some info.vipFip := by
        rw [← hset]
        exact Dict.get?_set_self _ _ _
      have herase : present.erase lbExtIdsVipFipKey = e := by
        rw [← hset]
        exact Dict.erase_set_self _ ((Dict.get?_eq_none_iff _ _).mp hslot)
      have hget : present.get? lbExtIdsAdditVipFipKey = e.get? lbExtIdsAdditVipFipKey := by
        rw [← hset]
        exact Dict.get?_set_of_ne _ _ (by decide)
      have hframed : framedAway false info.vipFip e = e := if_neg (by simp)
      rw [additFips] at hnotAddit
      rcases hfips : e.get? lbExtIdsAdditVipFipKey with _ | _ | ⟨c, fips⟩
      · simp [disassociateFip, hget, hfips, hvip, herase, hframed, leaveOp, fipKey]
      · simp [disassociateFip, hget, hfips, hvip, herase, hframed, leaveOp, fipKey]
      · simp only [hfips] at hnotAddit
        simp [disassociateFip, hget, hfips, hvip, herase, hframed, leaveOp, fipKey, hnotAddit]
  | true =>
      rw [hadd] at h
      have hall := h.associable.additFips_set
      generalize hset : e.set (fipKey true) (fipValue true info.vipFip e) = present at hall
      have hvip : present.get? lbExtIdsVipFipKey = e.get? lbExtIdsVipFipKey := by
        rw [← hset]
        exact Dict.get?_set_of_ne _ _ (by decide)
      have herased : (additFips e ++ [info.vipFip]).erase info.vipFip = additFips e := by
        rw [List.erase_append_right _ hnotAddit]
        simp
      rw [additFips] at hall
      rcases hget : present.get? lbExtIdsAdditVipFipKey with _ | _ | ⟨c, t⟩
      · simp [hget] at hall
      · simp [hget] at hall
      · simp only [hget] at hall
        rcases hfips : e.get? lbExtIdsAdditVipFipKey with _ | _ | ⟨b, fips⟩
        · have hnil : additFips e = [] := by simp [additFips, hfips]
          have herase : present.erase lbExtIdsAdditVipFipKey = e := by
            rw [← hset]
            exact Dict.erase_set_self _ ((Dict.get?_eq_none_iff _ _).mp hfips)
          rw [hnil] at hall herased
          simp [disassociateFip, hget, hall, herase, hnotVip, framedAway, hfips, leaveOp, fipKey]
        · rw [hadd, if_pos rfl] at hslot
          exact absurd hfips hslot
        · have hlist : additFips e = (b :: fips).splitOn ',' := by simp [additFips, hfips]
          have hne : additFips e ≠ [] := hlist ▸ List.splitOn_ne_nil _ _
          have hjoin : Str.join ',' (additFips e) = b :: fips := by
            rw [hlist, Str.join_splitOn]
          simp [disassociateFip, hget, hall, herased, hne, hjoin, hvip, hnotVip, framedAway, hfips,
            leaveOp, hset]

theorem Watched.run_disassociate (h : Watched nb row) (info : FipInfo)
    (hlb : info.ovnLb.uuid = row.uuid)
    (haction : info.action = .disassociate) {e : Dict Str Str}
    (hfip : NewFip env e info.additionalVipFip info.vipFip)
    (hkeys : row.externalIds = e.set (fipKey info.additionalVipFip)
      (fipValue info.additionalVipFip info.vipFip e))
    {vips : Dict Str Str} (hvips : frameVipIps env row.externalIds
      (framedAway info.additionalVipFip info.vipFip e) = .ok vips) :
    ∃ nb' row', (handleVipFip env info).run Nb.apply nb = (.ok (), nb') ∧
      nb'.lb? row.uuid = some row' ∧ row'.externalIds = e ∧ row'.vips = vips ∧
      nb'.checksOf row' = withoutCheck info.vipFip (nb.checksOf row) := by
  have hfound : nb.lb? info.ovnLb.uuid = some row := hlb ▸ h.found
  obtain ⟨hleft, hsame⟩ := hfip.leaveOp_apply hkeys
  obtain ⟨nb', row', hrun, hrow', hkeys', hvips', hchecks⟩ :=
    h.run_dropCheck info.vipFip (show ([leaveOp info.additionalVipFip e].foldl LbOp.apply
      row).healthCheck = row.healthCheck from hsame) vips
  refine ⟨nb', row', ?_, hrow', hkeys'.trans hleft, hvips', hchecks⟩
  simp only [handleVipFip, Prog.run_bind, run_readLb, live_of_lb? hfound, haction]
  rw [hkeys, hfip.disassociate_eq]
  simp only [Prog.run_bind, run_healthChecksOf hfound, run_refreshLbVips, live_of_lb? hfound,
    hvips, Except.map, Bool.false_and, Bool.false_eq_true, if_false]
  rw [hlb]
  exact hrun

end Runs

section RoundTrip
variable {env : Env} {nb : Nb} {row : LoadBalancer} {info : FipInfo} {statuses : Dict Str Str}

/-- The store after the floating IP is associated, and after it is taken away. -/
def associating (env : Env) (info : FipInfo) (nb : Nb) : Nb :=
  ((handleVipFip env { info with action := .associate }).run Nb.apply nb).2

def disassociating (env : Env) (info : FipInfo) (nb : Nb) : Nb :=
  ((handleVipFip env { info with action := .disassociate }).run Nb.apply nb).2

/-- The keys of floating IPs, the traffic map and the health checks of a row are as before. -/
def SameFips (nb : Nb) (row : LoadBalancer) (nb' : Nb) : Prop :=
  ∃ row', nb'.lb? row.uuid = some row' ∧
    (∀ add, row'.externalIds.get? (fipKey add) = row.externalIds.get? (fipKey add)) ∧
    (∀ k, row'.vips.get? k = row.vips.get? k) ∧
    (nb'.checksOf row').Perm (nb.checksOf row)

/-- The traffic map after the removal is that of before when the floating IP was not left in
a list of others, or there is no IPv4 traffic. -/
theorem NewFip.frame_away {e vips : Dict Str Str} {add : Bool} {f : Str} (h : NewFip env e add f)
    (hf : Framed env e) (hst : loadMemberStatuses e = .ok statuses)
    (hvips : frameVipIps env e e = .ok vips) :
    ∃ vips', frameVipIps env e (framedAway add f e) = .ok vips' ∧
      ((∀ k, vips'.get? k = vips.get? k) ↔
        (add = true → e.get? lbExtIdsAdditVipFipKey = none ∨
          ¬ ServesV4 env (isOffline statuses) e)) := by
  rw [framedAway]
  split
  · next hleft =>
      obtain ⟨vips₀, hok₀, hiff₀⟩ := hf.frame_iff (isOffline statuses)
      obtain ⟨vips', hok', hiff'⟩ := (h.associable.framed hf).frame_iff (isOffline statuses)
      rw [← frameVipIps_eq_off env hst] at hok₀ hok'
      cases hok₀.symm.trans hvips
      refine ⟨vips', hok', ?_⟩
      have hcarried := h.carried_iff hf (isOffline statuses)
      have hsame : (∀ k, vips'.get? k = vips.get? k) ↔ ∀ k v,
          Carried env (isOffline statuses) (e.set (fipKey add) (fipValue add f e)) k v ↔
            Carried env (isOffline statuses) e k v := by
        simp only [← hiff₀, ← hiff']
        constructor
        · intro hk k v
          rw [hk]
        · intro hk k
          ext v
          exact hk k v
      rw [hsame, hcarried]
      constructor
      · exact fun hno _ => .inr hno
      · exact fun hor => (hor hleft.1).resolve_left hleft.2
  · next hleft =>
      refine ⟨vips, hvips, fun _ hadd => ?_, fun _ _ => rfl⟩
      exact .inl (not_not.mp fun hne => hleft ⟨hadd, hne⟩)

/-- Taking a floating IP away undoes its association when at most one health check is copied
and, for an additional one, it is the only one or there is no IPv4 traffic. Associating it
twice is associating it once when it is that of the VIP and no health check is copied. -/
theorem fipRoundTrip_iff (h : Watched nb row) (hlb : info.ovnLb.uuid = row.uuid)
    (hf : Framed env row.externalIds) (hst : loadMemberStatuses row.externalIds = .ok statuses)
    {vips : Dict Str Str} (hvips : frameVipIps env row.externalIds row.externalIds = .ok vips)
    (hsync : ∀ k, row.vips.get? k = vips.get? k)
    (hfip : NewFip env row.externalIds info.additionalVipFip info.vipFip)
    (hchecks : ∀ hc ∈ nb.checksOf row, getVipLbhc hc ≠ info.vipFip) :
    (SameFips nb row (disassociating env info (associating env info nb)) ↔
      (copied info (nb.checksOf row)).length ≤ 1 ∧
        (info.additionalVipFip = true → row.externalIds.get? lbExtIdsAdditVipFipKey = none ∨
          ¬ ServesV4 env (isOffline statuses) row.externalIds)) ∧
    (associating env info (associating env info nb) = associating env info nb ↔
      info.additionalVipFip = false ∧ copied info (nb.checksOf row) = []) := by
  obtain ⟨nb₁, row₁, hrun₁, ha⟩ := h.run_associate { info with action := .associate }
    hlb rfl hfip.associable hst hf
  have hnb₁ : associating env info nb = nb₁ := by rw [associating, hrun₁]
  obtain ⟨copies, hall, hlen, hmade⟩ := ha.checks
  have hst₁ : loadMemberStatuses row₁.externalIds = .ok statuses := by
    rw [ha.keys, statuses_set_fip, hst]
  constructor
  · obtain ⟨vips₂, hok₂, hsame⟩ := hfip.frame_away hf hst hvips
    rw [frameVipIps_eq_off env hst, ← frameVipIps_eq_off env hst₁] at hok₂
    obtain ⟨nb₂, row₂, hrun₂, hrow₂, hkeys₂, rfl, hchecks₂⟩ :=
      ha.watched.run_disassociate { info with action := .disassociate }
        (hlb.trans ha.uuid.symm) rfl hfip ha.keys hok₂
    have hnb₂ : disassociating env info nb₁ = nb₂ := by rw [disassociating, hrun₂]
    have hnodup : ((nb.checksOf row ++ copies).map HealthCheck.uuid).Nodup := by
      rw [← hall, ha.watched.uuids_checksOf]
      exact ha.watched.nodup
    have hperm : (withoutCheck info.vipFip (nb.checksOf row ++ copies)).Perm (nb.checksOf row) ↔
        (copied info (nb.checksOf row)).length ≤ 1 := by
      rw [perm_withoutCheck hchecks hmade hnodup, hlen]
      rfl
    rw [ha.uuid] at hrow₂
    simp only [hnb₁, hnb₂, SameFips, ← hsame, ← hperm, ← hall, hsync]
    constructor
    · rintro ⟨row', hrow', -, hv, hp⟩
      cases hrow₂.symm.trans hrow'
      rw [hchecks₂] at hp
      exact ⟨hp, hv⟩
    · rintro ⟨hp, hv⟩
      exact ⟨row₂, hrow₂, fun add => by rw [hkeys₂], hv, hchecks₂ ▸ hp⟩
  · obtain ⟨nb₂, row₂, hrun₂, ha₂⟩ :=
      ha.watched.run_associate { info with action := .associate }
        (hlb.trans ha.uuid.symm) rfl (ha.keys ▸ hfip.associable.set) hst₁
        (ha.keys ▸ hfip.associable.framed hf)
    have hnb₂ : associating env info nb₁ = nb₂ := by rw [associating, hrun₂]
    obtain ⟨copies₂, hall₂, hlen₂, -⟩ := ha₂.checks
    rw [hnb₁, hnb₂]
    constructor
    · rintro rfl
      have hrow : row₂ = row₁ := by
        have hfound := ha₂.watched.found
        rw [ha₂.uuid, ha.watched.found] at hfound
        exact (Option.some.inj hfound).symm
      subst hrow
      refine ⟨?_, ?_⟩
      · -- a list of floating IPs has got one more
        cases hadd : info.additionalVipFip with
        | false => rfl
        | true =>
            have hvalue := congrArg (Dict.get? · (fipKey true)) ha₂.keys
            simp only [hadd, Dict.get?_set_self] at hvalue
            have hget := congrArg (Dict.get? · lbExtIdsAdditVipFipKey) ha.keys
            simp only [hadd, fipKey, if_true, Dict.get?_set_self] at hget hvalue
            rw [hget, Option.some.injEq] at hvalue
            have hlonger : fipValue true info.vipFip row₂.externalIds =
                fipValue true info.vipFip row.externalIds ++ ',' :: info.vipFip := by
              simp only [fipValue, hget]
            have := congrArg List.length (hvalue.trans hlonger)
            simp at this
      · have hcopies₂ : copies₂ = [] := List.append_right_eq_self.mp hall₂.symm
        have hnone : (copied info (nb₂.checksOf row₂)).length = 0 :=
          hlen₂.symm.trans (hcopies₂ ▸ rfl)
        rw [List.length_eq_zero_iff, hall, copied, List.filter_append, List.append_eq_nil_iff]
          at hnone
        exact hnone.1
    · rintro ⟨hadd, hcopied⟩
      have hnone : copies = [] := List.length_eq_zero_iff.mp (by rw [hlen]; exact hcopied ▸ rfl)
      have hcopied₁ : copied info (nb₁.checksOf row₁) = [] := by
        rw [hall, hnone, List.append_nil, hcopied]
      have hget : row₁.externalIds.get? (fipKey false) = some info.vipFip := by
        rw [ha.keys, hadd]
        exact Dict.get?_set_self _ _ _
      have hkeys : row₂.externalIds = row₁.externalIds := by
        rw [ha₂.keys, hadd]
        exact Dict.set_of_get? hget
      have hvips₂ : row₂.vips = row₁.vips := by
        have hok := ha₂.vips
        rw [hkeys, frameVipIps_eq_off env hst₁, ← frameVipIps_eq_off env hst, ha.vips] at hok
        exact (Except.ok.inj hok).symm
      rw [ha₂.unwatched hcopied₁, hkeys, hvips₂]
      exact Nb.putLb_self ha.watched.wellFormed ha.watched.found

end RoundTrip

section Example

/-- A load balancer that serves one member, with a floating IP in the list of additional
ones and a health check of its VIP. -/
def exampleFipRow : LoadBalancer :=
  { uuid := 2, name := exampleId 'a', protocol := some .tcp
    vips := (Dict.single "10.0.0.2:80".toList "10.0.0.7:80".toList).set
      "172.24.4.8:80".toList "10.0.0.7:80".toList
    externalIds := exampleServingKeys.set lbExtIdsAdditVipFipKey "172.24.4.8".toList
    options := ∅, selectionFields := [], healthCheck := [3], ipPortMappings := ∅ }

def exampleFipNb : Nb := { exampleNb with
  loadBalancers := [exampleFipRow]
  healthChecks := [⟨3, "10.0.0.2:80".toList, ∅, .single lbExtIdsHmVip "10.0.0.2".toList⟩]
  nextUuid := 4 }

/-- One more floating IP of the list. -/
def exampleFip : FipInfo :=
  { ovnLb := exampleFipRow, vipFip := "172.24.4.9".toList, vipRelated := ["10.0.0.2".toList]
    additionalVipFip := true, action := .associate }

theorem framed_exampleFipRow : Framed exampleEnv exampleFipRow.externalIds := by
  have hfip : Associable exampleEnv exampleServingKeys true "172.24.4.8".toList :=
    ⟨by decide, by decide, by decide, by decide, by decide +kernel⟩
  have hf := hfip.framed framed_exampleServingKeys
  have hvalue : fipValue true "172.24.4.8".toList exampleServingKeys = "172.24.4.8".toList := by
    decide +kernel
  rwa [hvalue] at hf

theorem fipRoundTrip_iff_example :
    (SameFips exampleFipNb exampleFipRow (disassociating exampleEnv exampleFip
        (associating exampleEnv exampleFip exampleFipNb)) ↔
      (copied exampleFip (exampleFipNb.checksOf exampleFipRow)).length ≤ 1 ∧
        (exampleFip.additionalVipFip = true →
          exampleFipRow.externalIds.get? lbExtIdsAdditVipFipKey = none ∨
            ¬ ServesV4 exampleEnv (isOffline ∅) exampleFipRow.externalIds)) ∧
    (associating exampleEnv exampleFip (associating exampleEnv exampleFip exampleFipNb) =
        associating exampleEnv exampleFip exampleFipNb ↔
      exampleFip.additionalVipFip = false ∧
        copied exampleFip (exampleFipNb.checksOf exampleFipRow) = []) :=
  fipRoundTrip_iff
    ⟨⟨by decide, by decide⟩, by decide +kernel, by decide, fun u hu => by
      have hthree : u = 3 := List.mem_singleton.mp hu
      rw [hthree]
      exact ⟨_, rfl⟩, by decide⟩ rfl
    framed_exampleFipRow (by decide +kernel)
    (show frameVipIps exampleEnv exampleFipRow.externalIds exampleFipRow.externalIds =
      .ok exampleFipRow.vips by decide +kernel) (fun _ => rfl)
    ⟨by decide, by decide, by decide, by decide, by decide +kernel, by decide +kernel,
      by decide +kernel⟩ (by decide +kernel)

/-- The entry of the floating IP that was taken away is still in the traffic map. -/
theorem not_sameFips_exampleFipRow : ¬ SameFips exampleFipNb exampleFipRow
    (disassociating exampleEnv exampleFip (associating exampleEnv exampleFip exampleFipNb)) := by
  rintro ⟨row', hrow', -, hvips, -⟩
  have hleft : ((disassociating exampleEnv exampleFip
      (associating exampleEnv exampleFip exampleFipNb)).lb? exampleFipRow.uuid).map
        (·.vips.get? "172.24.4.9:80".toList) = some (some "10.0.0.7:80".toList) := by
    decide +kernel
  have hnot : exampleFipRow.vips.get? "172.24.4.9:80".toList = none := by decide +kernel
  rw [hrow', Option.map_some, hvips, hnot] at hleft
  cases hleft

end Example

end OvnOctavia

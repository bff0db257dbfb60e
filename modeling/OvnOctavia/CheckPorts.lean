import OvnOctavia.CheckSync

/-!
The address and the port in the text of a health check. A new monitor writes both, or
nothing while no listener is known; the port is exchanged when a listener is created. The
text is cut at its first colon there, which an IPv6 address has within its brackets.
-/

namespace OvnOctavia

section Writing
variable {env : Env} {nb nb' : Nb} {lb row : LoadBalancer} {info : HmInfo} {poolKey vip : Str}
  {port : Option Nat} {hc hc' : HealthCheck} {q : Nat}

/-- The health check of a new monitor for a VIP, with the port that is known. -/
structure WrittenFor (env : Env) (info : HmInfo) (poolKey vip : Str) (port : Option Nat)
    (hc : HealthCheck) : Prop where
  text : lbhcVip env vip (port.map Str.ofNat) = .ok hc.vip
  options : hc.options = hmOptions info
  externalIds : hc.externalIds = lbhcExternalIds info.id poolKey vip

theorem WrittenFor.isSome_ipVersion (h : WrittenFor env info poolKey vip port hc) :
    (env.ipVersion vip).isSome := by
  have htext := h.text
  simp only [lbhcVip, bracketVip, Env.version] at htext
  cases hv : env.ipVersion vip with
  | some v => rfl
  | none =>
      rw [hv] at htext
      cases htext

/-- What a transaction that adds health checks and updates rows adds to the table. -/
theorem mem_healthChecks_transact {cs : List Command}
    (hcs : ∀ c ∈ cs, (∃ u text options keys, c = .hcCreate u text options keys) ∨
      ∃ u op, c = .lbUpdate u op) (ht : Prog.transact Nb.apply cs nb = .ok nb') :
    (∀ hc ∈ nb.healthChecks, hc ∈ nb'.healthChecks) ∧
      ∀ u text options keys, .hcCreate u text options keys ∈ cs → ∃ hc ∈ nb'.healthChecks,
        hc.vip = text ∧ hc.options = options ∧ hc.externalIds = keys := by
  induction cs generalizing nb with
  | nil =>
      cases ht
      exact ⟨fun _ hm => hm, nofun⟩
  | cons c cs ih =>
      rw [Prog.transact_cons] at ht
      obtain ⟨nb₁, hfirst, hrest⟩ := Except.bind_eq_ok.mp ht
      obtain ⟨hkept, hadded⟩ := ih (fun d hd => hcs d (List.mem_cons_of_mem _ hd)) hrest
      rcases hcs c (List.mem_cons_self ..) with ⟨u, text, options, keys, rfl⟩ | ⟨u, op, rfl⟩
      · simp only [Nb.apply] at hfirst
        split at hfirst
        · cases hfirst
        · cases hfirst
          refine ⟨fun hc hm => hkept hc (List.mem_append_left _ hm), fun u' t o k hmem => ?_⟩
          rcases List.mem_cons.mp hmem with he | hmem
          · cases he
            exact ⟨_, hkept _ (List.mem_append_right _ (List.mem_singleton_self _)), rfl, rfl, rfl⟩
          · exact hadded u' t o k hmem
      · simp only [Nb.apply] at hfirst
        split at hfirst
        · cases hfirst
        · cases hfirst
          refine ⟨hkept, fun u' t o k hmem => ?_⟩
          rcases List.mem_cons.mp hmem with he | hmem
          · cases he
          · exact hadded u' t o k hmem

/-- Among the commands of a new monitor is that of every VIP. -/
theorem addLbhcCommands_vip {cs : List Command}
    (hcs : addLbhcCommands env row poolKey info = .ok cs) (hvip : vip ∈ lbVips row.externalIds) :
    (∀ c ∈ cs, (∃ u text options keys, c = .hcCreate u text options keys) ∨
      ∃ u op, c = .lbUpdate u op) ∧
    ∃ text, lbhcVip env vip (getPoolListenerPort row.externalIds poolKey) = .ok text ∧
      .hcCreate row.uuid text (hmOptions info) (lbhcExternalIds info.id poolKey vip) ∈ cs := by
  simp only [addLbhcCommands] at hcs
  obtain ⟨hms, -, hcs⟩ := Except.bind_eq_ok.mp hcs
  obtain ⟨vipCommands, hv, hcs⟩ := Except.bind_eq_ok.mp hcs
  obtain ⟨fipCommands, hf, hcs⟩ := Except.bind_eq_ok.mp hcs
  cases hcs
  constructor
  · intro c hc
    rcases List.mem_append.mp hc with hc | hc
    · obtain ⟨pair, hpair, hc⟩ := List.mem_flatten.mp hc
      obtain ⟨a, -, ha⟩ := Except.exists_of_mem_mapM hv hpair
      obtain ⟨text, -, ha⟩ := Except.bind_eq_ok.mp ha
      cases ha
      simp only [List.mem_cons, List.not_mem_nil, or_false] at hc
      rcases hc with rfl | rfl
      · exact .inl ⟨_, _, _, _, rfl⟩
      · exact .inr ⟨_, _, rfl⟩
    · obtain ⟨a, -, ha⟩ := Except.exists_of_mem_mapM hf hc
      obtain ⟨text, -, ha⟩ := Except.bind_eq_ok.mp ha
      cases ha
      exact .inl ⟨_, _, _, _, rfl⟩
  · obtain ⟨pair, hpair⟩ := Except.mapM_ok_iff.mp ⟨_, hv⟩ vip hvip
    have hmem := Except.mem_mapM_of_mem hv hvip hpair
    obtain ⟨text, htext, hpair⟩ := Except.bind_eq_ok.mp hpair
    cases hpair
    exact ⟨text, htext, List.mem_append_left _
      (List.mem_flatten.mpr ⟨_, hmem, List.mem_cons_self ..⟩)⟩

/-- A new monitor writes a health check for every VIP. -/
theorem addLbhc_writes (hrow : nb.lb? lb.uuid = some row)
    (hport : getPoolListenerPort row.externalIds poolKey = port.map Str.ofNat)
    (hrun : (addLbhc env lb poolKey info).run Nb.apply nb = (.ok true, nb'))
    (hvip : vip ∈ lbVips row.externalIds) :
    ∃ hc ∈ nb'.healthChecks, WrittenFor env info poolKey vip port hc := by
  have hvips : lbVips row.externalIds ≠ [] := List.ne_nil_of_mem hvip
  simp only [addLbhc, Prog.run_bind, run_readLb, live_of_lb? hrow, if_neg hvips,
    Prog.run_attempt, Prog.run_ofExcept] at hrun
  cases hcs : addLbhcCommands env row poolKey info with
  | error e =>
      rw [hcs] at hrun
      cases hrun
  | ok cs =>
      rw [hcs] at hrun
      simp only [Prog.run_transaction] at hrun
      cases ht : Prog.transact Nb.apply cs nb with
      | error e =>
          rw [ht] at hrun
          cases hrun
      | ok nb₁ =>
          rw [ht] at hrun
          cases hrun
          obtain ⟨hkind, text, htext, hmem⟩ := addLbhcCommands_vip hcs hvip
          obtain ⟨hc, hm, rfl, ho, hk⟩ := (mem_healthChecks_transact hkind ht).2 _ _ _ _ hmem
          exact ⟨hc, hm, hport ▸ htext, ho, hk⟩

end Writing

section Moving
variable {env : Env} {nb : Nb} {info : HmInfo} {poolKey vip : Str} {port : Option Nat}
  {hc : HealthCheck} {q : Nat}

/-- The health check with another port is the one a new monitor writes for that port, and it
is for the same address. -/
def MovesPort (env : Env) (nb : Nb) (info : HmInfo) (poolKey vip : Str) (hc : HealthCheck)
    (q : Nat) : Prop :=
  ∃ hc', ((updateLbhcVipPort env hc q).run Nb.apply nb).2.hc? hc.uuid = some hc' ∧
    WrittenFor env info poolKey vip (some q) hc' ∧ getVipLbhc hc = vip ∧ getVipLbhc hc' = vip

theorem WrittenFor.getVipLbhc (h : WrittenFor env info poolKey vip port hc) (hvip : vip ≠ []) :
    OvnOctavia.getVipLbhc hc = vip := by
  obtain ⟨c, t, rfl⟩ := List.exists_cons_of_ne_nil hvip
  rw [OvnOctavia.getVipLbhc, h.externalIds, (get?_lbhcExternalIds _ _ _).2]

theorem Nb.hc?_update (hhc : nb.hc? hc.uuid = some hc) (op : HcOp) :
    (executeCommands [.hcUpdate hc.uuid op]).run Nb.apply nb = (.ok (), { nb with
        healthChecks := nb.healthChecks.map fun x =>
          if x.uuid = hc.uuid then HcOp.apply x op else x }) ∧
      ({ nb with healthChecks := nb.healthChecks.map fun x =>
        if x.uuid = hc.uuid then HcOp.apply x op else x } : Nb).hc? hc.uuid =
          some (HcOp.apply hc op) := by
  constructor
  · rw [run_executeCommands, Prog.transact_cons]
    simp only [Nb.apply, hhc]
    rfl
  · have huuid : ∀ x : HealthCheck, (HcOp.apply x op).uuid = x.uuid := by
      intro x
      cases op <;> rfl
    rw [Nb.hc?, List.find?_map]
    have hsame : ((fun x : HealthCheck => decide (x.uuid = hc.uuid)) ∘ fun x =>
        if x.uuid = hc.uuid then HcOp.apply x op else x) = fun x => decide (x.uuid = hc.uuid) := by
      funext x
      by_cases hx : x.uuid = hc.uuid
      · simp [hx, huuid]
      · simp [hx]
    rw [hsame]
    have hfind : nb.healthChecks.find? (fun x => decide (x.uuid = hc.uuid)) = some hc := hhc
    rw [hfind, Option.map_some, if_pos rfl]

/-- The text of a health check for the port that is known. -/
def writtenText (env : Env) (vip : Str) : Option Nat → Str
  | none => []
  | some p => checkText env (Str.ofNat p) vip

theorem WrittenFor.vip_eq (h : WrittenFor env info poolKey vip port hc) :
    hc.vip = writtenText env vip port := by
  have htext := h.text
  cases port with
  | none =>
      obtain ⟨b, -, hb⟩ := Except.map_eq_ok.mp htext
      exact hb.symm
  | some p =>
      rw [Option.map_some, lbhcVip_eq h.isSome_ipVersion (Str.ofNat_ne_nil p)] at htext
      exact (Except.ok.inj htext).symm

/-- The text the update of the port writes over that for the port known before. -/
def movedText (env : Env) (vip : Str) (q : Nat) : Option Nat → Str
  | none => checkText env (Str.ofNat q) vip
  | some p =>
      addressPort (((checkText env (Str.ofNat p) vip).splitOn ':').headD []) (Str.ofNat q)

theorem run_updateLbhcVipPort (h : WrittenFor env info poolKey vip port hc) (hvip : vip ≠ [])
    (hhc : nb.hc? hc.uuid = some hc) :
    ((updateLbhcVipPort env hc q).run Nb.apply nb).2.hc? hc.uuid = some { hc with
      vip := movedText env vip q port } := by
  have hset : ∀ t, (updateLbhcVipPort env hc q).run Nb.apply nb =
      (executeCommands [.hcUpdate hc.uuid (.setVip t)]).run Nb.apply nb →
      ((updateLbhcVipPort env hc q).run Nb.apply nb).2.hc? hc.uuid = some { hc with vip := t } := by
    intro t ht
    obtain ⟨hrun, hget⟩ := Nb.hc?_update hhc (.setVip t)
    rw [ht, hrun, hget]
    rfl
  have htext := h.vip_eq
  cases port with
  | none =>
      obtain ⟨c, t, rfl⟩ := List.exists_cons_of_ne_nil hvip
      obtain ⟨v, hv⟩ := Option.isSome_iff_exists.mp h.isSome_ipVersion
      refine hset _ ?_
      rw [writtenText] at htext
      simp only [updateLbhcVipPort, movedText, htext, h.externalIds, (get?_lbhcExternalIds _ _ _).2,
        Prog.run_bind, Prog.run_ofExcept, bracketVip, Env.version, hv, Except.map, Prog.run_pure,
        checkText]
      cases v <;> rfl
  | some p =>
      refine hset _ ?_
      rw [writtenText] at htext
      have hne : hc.vip ≠ [] := by simp [htext, checkText, addressPort]
      obtain ⟨c, t, hcons⟩ := List.exists_cons_of_ne_nil hne
      rw [movedText, ← htext]
      simp only [updateLbhcVipPort, hcons, Prog.run_bind, Prog.run_pure]

/-- The port of a health check can be exchanged as long as there is none or its address has
no colon. -/
theorem movesPort_iff (h : WrittenFor env info poolKey vip port hc) (hvip : vip ≠ [])
    (hhc : nb.hc? hc.uuid = some hc) :
    MovesPort env nb info poolKey vip hc q ↔ port = none ∨ ':' ∉ vip := by
  have hrun := run_updateLbhcVipPort (q := q) h hvip hhc
  have hwritten : ∀ t, WrittenFor env info poolKey vip (some q) { hc with vip := t } ↔
      t = checkText env (Str.ofNat q) vip := by
    intro t
    constructor
    · exact fun hw => hw.vip_eq
    · intro ht
      refine ⟨?_, h.options, h.externalIds⟩
      rw [Option.map_some, lbhcVip_eq h.isSome_ipVersion (Str.ofNat_ne_nil q), ht]
  have hcolon : ':' ∉ shown ((env.ipVersion vip).getD .v4) vip ↔ ':' ∉ vip := by
    cases (env.ipVersion vip).getD .v4 <;> simp [shown, bracket]
  have hmoves : MovesPort env nb info poolKey vip hc q ↔
      movedText env vip q port = checkText env (Str.ofNat q) vip := by
    rw [← hwritten]
    constructor
    · rintro ⟨hc', hget, hw, -, -⟩
      rw [hrun] at hget
      cases hget
      exact hw
    · exact fun hw => ⟨_, hrun, hw, h.getVipLbhc hvip, hw.getVipLbhc hvip⟩
  rw [hmoves]
  cases port with
  | none => exact iff_of_true rfl (.inl rfl)
  | some p =>
      rw [movedText, ← hcolon, ← @Str.headD_splitOn_append_cons ':' _ (Str.ofNat p)]
      simp only [reduceCtorEq, false_or, checkText, addressPort, List.append_cancel_right_eq]

end Moving

section Example

/-- The database once a new monitor has added its health checks. -/
def exampleAddedNb : Nb :=
  ((addLbhc exampleEnv exampleListedRow (getPoolKey exampleNewMonitor.poolId true)
    exampleNewMonitor).run Nb.apply exampleListedNb).2

theorem movesPort_example : ∃ hc ∈ exampleAddedNb.healthChecks,
    WrittenFor exampleEnv exampleNewMonitor (getPoolKey exampleNewMonitor.poolId true)
        "10.0.0.2".toList (some 80) hc ∧
      MovesPort exampleEnv exampleAddedNb exampleNewMonitor
        (getPoolKey exampleNewMonitor.poolId true) "10.0.0.2".toList hc 443 := by
  have hrow : exampleListedNb.lb? exampleListedRow.uuid = some exampleListedRow := rfl
  have hport : getPoolListenerPort exampleListedRow.externalIds
      (getPoolKey exampleNewMonitor.poolId true) = (some 80).map Str.ofNat := by decide +kernel
  have hrun : (addLbhc exampleEnv exampleListedRow (getPoolKey exampleNewMonitor.poolId true)
      exampleNewMonitor).run Nb.apply exampleListedNb = (.ok true, exampleAddedNb) :=
    Prod.ext (by decide +kernel) rfl
  have hvip : "10.0.0.2".toList ∈ lbVips exampleListedRow.externalIds := by decide +kernel
  have hall : ∀ hc ∈ exampleAddedNb.healthChecks, exampleAddedNb.hc? hc.uuid = some hc := by
    decide +kernel
  obtain ⟨hc, hm, hw⟩ := addLbhc_writes hrow hport hrun hvip
  exact ⟨hc, hm, hw, (movesPort_iff hw (by decide) (hall hc hm)).mpr (.inr (by decide))⟩

/-- The health check of a new monitor for an IPv6 address and the port 80. -/
def exampleV6Check : HealthCheck :=
  ⟨3, "[fd00::1]:80".toList, hmOptions exampleNewMonitor,
    lbhcExternalIds exampleNewMonitor.id (getPoolKey exampleNewMonitor.poolId true)
      "fd00::1".toList⟩

def exampleV6Nb : Nb := { exampleNb with healthChecks := [exampleV6Check], nextUuid := 4 }

theorem writtenFor_exampleV6 : WrittenFor exampleEnv exampleNewMonitor
    (getPoolKey exampleNewMonitor.poolId true) "fd00::1".toList (some 80) exampleV6Check :=
  ⟨by decide +kernel, rfl, rfl⟩

/-- The address is cut within its brackets. -/
theorem not_movesPort_exampleV6 :
    WrittenFor exampleEnv exampleNewMonitor (getPoolKey exampleNewMonitor.poolId true)
        "fd00::1".toList (some 80) exampleV6Check ∧
      ((updateLbhcVipPort exampleEnv exampleV6Check 443).run Nb.apply exampleV6Nb).2.hc? 3 =
        some { exampleV6Check with vip := "[fd00:443".toList } ∧
      ¬MovesPort exampleEnv exampleV6Nb exampleNewMonitor
        (getPoolKey exampleNewMonitor.poolId true) "fd00::1".toList exampleV6Check 443 := by
  have hget : ((updateLbhcVipPort exampleEnv exampleV6Check 443).run Nb.apply exampleV6Nb).2.hc? 3 =
      some { exampleV6Check with vip := "[fd00:443".toList } := by decide +kernel
  refine ⟨writtenFor_exampleV6, hget, ?_⟩
  rintro ⟨hc', hhc', hw, -, -⟩
  obtain rfl := Option.some.inj (hget.symm.trans hhc')
  exact absurd hw.vip_eq (by decide +kernel)

end Example

end OvnOctavia

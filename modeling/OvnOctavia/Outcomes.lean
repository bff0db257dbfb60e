import OvnOctavia.Peripheral
import OvnOctavia.Transactions

/-!
What the requests on listeners and pools do to the table of load balancer rows,
said once for each request: which row it works on, when it changes nothing, and
the row it leaves. What follows the main transaction leaves all objects alone.
-/

namespace OvnOctavia

section Finding

theorem run_findOvnLb (nb : Nb) (lbId : Str) (p : Protocol) :
    (findOvnLb lbId p).run Nb.apply nb = (selectOvnLb p (nb.lbsNamed lbId), nb) := by
  rw [findOvnLb, Prog.run, Prog.run_ofExcept]

theorem run_findOvnLbs (nb : Nb) (lbId : Str) : (findOvnLbs lbId).run Nb.apply nb =
    (if nb.lbsNamed lbId = [] then .error .rowNotFound else .ok (nb.lbsNamed lbId), nb) := by
  rw [findOvnLbs, Prog.run]
  cases nb.lbsNamed lbId with
  | nil => rfl
  | cons row rows => rw [if_neg (List.cons_ne_nil row rows)]; rfl

theorem findProtocol_ok {p : Protocol} {lbs : List LoadBalancer} {lb : LoadBalancer}
    (h : findProtocol p lbs = .ok lb) : lb ∈ lbs ∧ lb.protocol = some p := by
  induction lbs with
  | nil => cases h
  | cons a lbs ih =>
      rw [findProtocol] at h
      cases ha : a.protocol with
      | none => rw [ha] at h; cases h
      | some q =>
          simp only [ha] at h
          split at h
          · next hq =>
              cases h
              exact ⟨List.mem_cons_self .., ha.trans (congrArg some hq)⟩
          · exact ⟨List.mem_cons_of_mem _ (ih h).1, (ih h).2⟩

theorem selectOvnLb_ok {p : Protocol} {lbs : List LoadBalancer} {lb : LoadBalancer}
    (h : selectOvnLb p lbs = .ok lb) :
    lb ∈ lbs ∧ (lb.protocol = some p ∨ lb.protocol = none ∧ lbs = [lb]) := by
  unfold selectOvnLb at h
  split at h
  · split at h
    · next hn =>
        cases h
        exact ⟨List.mem_singleton_self _, .inr ⟨hn, rfl⟩⟩
    · have := findProtocol_ok h
      exact ⟨this.1, .inl this.2⟩
  · have := findProtocol_ok h
    exact ⟨this.1, .inl this.2⟩

/-- Rows changed in other columns than the protocol are selected alike. -/
theorem selectOvnLb_map {p : Protocol} {lbs : List LoadBalancer} {f : LoadBalancer → LoadBalancer}
    (hf : ∀ lb ∈ lbs, (f lb).protocol = lb.protocol) :
    selectOvnLb p (lbs.map f) = (selectOvnLb p lbs).map f := by
  have hfind : ∀ l : List LoadBalancer, (∀ lb ∈ l, (f lb).protocol = lb.protocol) →
      findProtocol p (l.map f) = (findProtocol p l).map f := by
    intro l hl
    induction l with
    | nil => rfl
    | cons lb l ih =>
        rw [List.map_cons, findProtocol, findProtocol, hl lb (List.mem_cons_self ..)]
        cases lb.protocol with
        | none => rfl
        | some q =>
            dsimp only
            split
            · rfl
            · exact ih fun x hx => hl x (List.mem_cons_of_mem _ hx)
  match lbs with
  | [] => exact hfind [] hf
  | [lb] =>
      have hone := hfind [lb] hf
      rw [List.map_singleton] at hone ⊢
      simp only [selectOvnLb, hf lb (List.mem_singleton_self _), hone]
      split
      · rfl
      · rfl
  | a :: b :: l => exact hfind (a :: b :: l) hf

theorem selectOvnLb_putLb {nb : Nb} (hw : nb.WellFormed) {p : Protocol} {lbId : Str}
    {row row' : LoadBalancer} (hsel : selectOvnLb p (nb.lbsNamed lbId) = .ok row)
    (hu : row'.uuid = row.uuid) (hn : row'.name = row.name)
    (hp : row'.protocol = row.protocol) :
    selectOvnLb p ((nb.putLb row').lbsNamed lbId) = .ok row' := by
  have hrow := (selectOvnLb_ok hsel).1
  have hget : nb.lb? row'.uuid = some row := hu ▸ hw.lb?_of_mem (Nb.mem_lbsNamed.mp hrow).1
  rw [Nb.lbsNamed_putLb hw row' hget hn, selectOvnLb_map, hsel]
  · simp only [Except.map, if_pos hu.symm]
  · intro lb hlb
    split
    · next he =>
        have hlb' := hw.lb?_of_mem (Nb.mem_lbsNamed.mp hlb).1
        rw [he, hget] at hlb'
        rw [← Option.some.inj hlb', hp]
    · rfl

theorem find?_of_selectOvnLb {p : Protocol} {lbs : List LoadBalancer} {row : LoadBalancer}
    (hsel : selectOvnLb p lbs = .ok row) (hp : row.protocol = some p) :
    lbs.find? (·.protocol = some p) = some row := by
  have hfind : ∀ l : List LoadBalancer, findProtocol p l = .ok row →
      l.find? (·.protocol = some p) = some row := by
    intro l hl
    induction l with
    | nil => cases hl
    | cons lb l ih =>
        rw [findProtocol] at hl
        cases hq : lb.protocol with
        | none => rw [hq] at hl; cases hl
        | some q =>
            simp only [hq] at hl
            split at hl
            · next h => cases hl; simp [hq, h]
            · next h => rw [List.find?_cons_of_neg (by simp [hq, h])]; exact ih hl
  match lbs with
  | [] => cases hsel
  | [lb] =>
      rw [selectOvnLb] at hsel
      split at hsel
      · next hnone => cases hsel; rw [hnone] at hp; cases hp
      · exact hfind [lb] hsel
  | a :: b :: l => exact hfind _ hsel

end Finding

section Creating
variable {nb : Nb} {env : Env}

theorem createLbRow_outcome (env : Env) (info : LoadBalancerInfo) (protocol : Option Protocol)
    (externalIds : Dict Str Str) (port : Option Port) (subnet : Option Subnet) (nb : Nb) :
    ∃ fields, (nb.createLb info.id protocol externalIds fields).SameObjects
      ((createLbRow env info protocol externalIds port subnet).run Nb.apply nb).2 := by
  refine ⟨if env.areSelectionFieldsSupported then getSelectionKeys info.lbAlgorithm else [], ?_⟩
  generalize hfields : (if env.areSelectionFieldsSupported then
    getSelectionKeys info.lbAlgorithm else []) = fields
  have hcreate : (Prog.transaction [Command.lbCreate info.id protocol externalIds fields] :
      Nbctl Unit).run Nb.apply nb = (.ok (), nb.createLb info.id protocol externalIds fields) := rfl
  rw [createLbRow, hfields, Prog.run_bind, hcreate]
  refine sameObjects_run ?_ (nb.createLb info.id protocol externalIds fields)
  refine .bind (uses_findOvnLbOrFirst info.id protocol) fun lb => ?_
  cases port with
  | none => exact .throw _
  | some port => exact (peripheral_associateNewLb env info lb port subnet).peripheral

/-- A status that does not report a success. -/
def IsFailure (lbId : Str) (r : Except Exc Status) : Prop :=
  ∀ operatingStatus, r ≠ .ok (lbStatusOf lbId ACTIVE operatingStatus)

theorem isFailure_error (lbId : Str) : IsFailure lbId (.ok (lbStatusOf lbId ERROR ERROR)) := by
  intro operatingStatus he
  have hl : ERROR = ACTIVE ∧ ERROR = operatingStatus := by
    simpa [lbStatusOf] using he
  exact absurd hl.1 (by decide)

/-- A creation that gives up: the ports it found are deleted. -/
theorem run_giveUp (env : Env) (lbId : Str) (port : Option Port) (ports : List (Option Port))
    (nb : Nb) :
    let r := (do
      deleteVipPorts env port ports
      return lbStatusOf lbId ERROR ERROR : Nbctl Status).run Nb.apply nb
    nb.SameObjects r.2 ∧ IsFailure lbId r.1 := by
  refine ⟨sameObjects_run
    (.bind (peripheral_deleteVipPorts (u := 0) env port ports).peripheral fun _ => .pure _) nb, ?_⟩
  rw [Prog.run_bind]
  rcases (deleteVipPorts env port ports).run Nb.apply nb with ⟨e | _, nb'⟩
  · intro _ he
    cases he
  · exact isFailure_error lbId

/-- Creating a load balancer adds one row, or fails and adds none; the rest is
peripheral. -/
theorem lbCreate_outcome (env : Env) (info : LoadBalancerInfo) (protocol : Option Protocol)
    (nb : Nb) :
    (nb.SameObjects ((lbCreate env info protocol).run Nb.apply nb).2 ∧
        IsFailure info.id ((lbCreate env info protocol).run Nb.apply nb).1) ∨
      ∃ vip vipPortId up fields, info.vipAddress = some vip ∧ info.adminStateUp = some up ∧
        vipPortIdOf info (vipPorts env info).1.1 = .ok vipPortId ∧
        (nb.createLb info.id protocol (addVipKeys info (baseExternalIds vip vipPortId up))
          fields).SameObjects ((lbCreate env info protocol).run Nb.apply nb).2 := by
  have hraise : ∀ e : Exc, nb.SameObjects nb ∧ IsFailure info.id (.error e) :=
    fun e => ⟨.refl nb, fun _ he => by cases he⟩
  rw [lbCreate]
  rcases vipPorts env info with ⟨⟨port, subnet, ports⟩, _ | _⟩
  · exact .inl (run_giveUp env info.id port ports nb)
  · dsimp only
    cases hport : vipPortIdOf info port with
    | error e => exact .inl (hraise e)
    | ok vipPortId =>
        rcases hvip : info.vipAddress with _ | vip
        · rcases info.adminStateUp with _ | up
          · exact .inl (hraise .keyError)
          · exact .inl (run_giveUp env info.id port ports nb)
        · rcases hup : info.adminStateUp with _ | up
          · exact .inl (hraise .keyError)
          · obtain ⟨fields, hrow⟩ := createLbRow_outcome env info protocol
              (addVipKeys info (baseExternalIds vip vipPortId up)) port subnet nb
            refine .inr ⟨vip, vipPortId, up, fields, rfl, rfl, rfl, hrow.trans ?_⟩
            simp only [Prog.run_bind, Prog.run_ofExcept, Prog.run_attempt]
            rcases ((createLbRow env info protocol (addVipKeys info
              (baseExternalIds vip vipPortId up)) port subnet).run Nb.apply nb).1 with e | a
            · exact (run_giveUp env info.id port ports _).1
            · exact .refl _

/-- The step of `vipPorts` for one additional VIP. -/
def addVipPort (env : Env)
    (acc : (Option Port × Option Subnet × List (Option Port)) × Except Exc Unit)
    (vip : AdditionalVip) : (Option Port × Option Subnet × List (Option Port)) × Except Exc Unit :=
  match acc.2 with
  | .error _ => acc
  | .ok _ =>
      match getPortFromInfo env (some vip.portId) vip.networkId (some vip.ipAddress) false with
      | .ok (p, _) => ((acc.1.1, acc.1.2.1, acc.1.2.2 ++ [p]), .ok ())
      | .error e => (acc.1, .error e)

/-- The port and the subnet of the VIP are those that are looked up first. -/
theorem vipPorts_eq {env : Env} {info : LoadBalancerInfo} {client : Unit}
    (hclient : env.neutronClient = .ok client) {port : Option Port} {subnet : Option Subnet}
    (h : getPortFromInfo env info.vipPortId info.vipNetworkId info.vipAddress true =
      .ok (port, subnet)) :
    (vipPorts env info).1.1 = port ∧ (vipPorts env info).1.2.1 = subnet := by
  have hfold : ∀ (vips : List AdditionalVip)
      (acc : (Option Port × Option Subnet × List (Option Port)) × Except Exc Unit),
      (vips.foldl (addVipPort env) acc).1.1 = acc.1.1 ∧
      (vips.foldl (addVipPort env) acc).1.2.1 = acc.1.2.1 := by
    intro vips
    induction vips with
    | nil => exact fun _ => ⟨rfl, rfl⟩
    | cons vip vips ih =>
        intro acc
        obtain ⟨hp, hs⟩ := ih (addVipPort env acc vip)
        rw [List.foldl_cons, hp, hs, addVipPort]
        split
        · exact ⟨rfl, rfl⟩
        · split <;> exact ⟨rfl, rfl⟩
  unfold vipPorts
  rw [hclient]
  simp only [h]
  exact hfold _ _

/-- Ports that were found start with that of the VIP. -/
theorem getPortFromInfo_of_vipPorts {env : Env} {info : LoadBalancerInfo} {port : Option Port}
    {subnet : Option Subnet} {ports : List (Option Port)}
    (h : vipPorts env info = ((port, subnet, ports), .ok ())) :
    getPortFromInfo env info.vipPortId info.vipNetworkId info.vipAddress true =
      .ok (port, subnet) := by
  cases hclient : env.neutronClient with
  | error e =>
      rw [vipPorts, hclient] at h
      cases h
  | ok client =>
      rcases hfound : getPortFromInfo env info.vipPortId info.vipNetworkId info.vipAddress true
        with e | ⟨port', subnet'⟩
      · rw [vipPorts, hclient] at h
        simp only [hfound] at h
        cases h
      · obtain ⟨hp, hs⟩ := vipPorts_eq hclient hfound
        rw [h] at hp hs
        simp only at hp hs
        rw [hp, hs]

/-- Without a port id and a network no port is looked up. -/
theorem vipPorts_fst {env : Env} {info : LoadBalancerInfo} (hid : info.vipPortId.getD [] = [])
    (hnet : info.vipNetworkId = none) : (vipPorts env info).1.1 = none := by
  have hport : getPortFromInfo env info.vipPortId info.vipNetworkId info.vipAddress true =
      .ok (none, none) := by
    unfold getPortFromInfo
    rw [hnet]
    rcases h : info.vipPortId with _ | _ | ⟨c, id⟩
    · rfl
    · rfl
    · simp [h] at hid
  cases hclient : env.neutronClient with
  | error e => simp [vipPorts, hclient]
  | ok client => exact (vipPorts_eq hclient hport).1

/-- The port of a row that is given one, without a network, is the one given. -/
theorem vipPortId_of_given {env : Env} {info : LoadBalancerInfo} {vipPortId : Str}
    (hnet : info.vipNetworkId = none)
    (h : vipPortIdOf info (vipPorts env info).1.1 = .ok vipPortId) :
    info.vipPortId = some vipPortId := by
  rcases hid : info.vipPortId with _ | _ | ⟨c, id⟩
  · rw [vipPorts_fst (by rw [hid]; rfl) hnet] at h
    simp [vipPortIdOf, hid] at h
  · rw [vipPorts_fst (by rw [hid]; rfl) hnet] at h
    simp [vipPortIdOf, hid] at h
  · simp only [vipPortIdOf, hid, Except.ok.injEq] at h
    rw [h]

/-- How a row for a protocol that has none is provided. -/
inductive Provided (env : Env) (lbId : Str) (p : Protocol) (up : Bool) (nb : Nb) : Nb → Prop
  | failed {nb' : Nb} (hp : ∀ lb ∈ nb.lbsNamed lbId, lb.protocol ≠ none ∧ lb.protocol ≠ some p)
      (h : nb.SameObjects nb') : Provided env lbId p up nb nb'
  | assigned {row : LoadBalancer} (hrow : row ∈ nb.lbsNamed lbId) (hnone : row.protocol = none)
      (hp : ∀ lb ∈ nb.lbsNamed lbId, lb.protocol ≠ some p) :
      Provided env lbId p up nb (nb.putLb { row with protocol := some p })
  | created {first : LoadBalancer} {vip vipPortId : Str} {alg : Option LbAlgorithm}
      {fields : List Str} {nb' : Nb} (hfirst : first ∈ nb.lbsNamed lbId)
      (hp : ∀ lb ∈ nb.lbsNamed lbId, lb.protocol ≠ none ∧ lb.protocol ≠ some p)
      (hvip : first.externalIds.get? lbExtIdsVipKey = some vip)
      (hport : first.externalIds.get? lbExtIdsVipPortIdKey = some vipPortId)
      (h : (nb.createLb lbId (some p) (addVipKeys (copyLbInfo env lbId first up alg)
        (baseExternalIds vip vipPortId up)) fields).SameObjects nb') :
      Provided env lbId p up nb nb'

theorem provideOvnLb_provided (env : Env) (hw : nb.WellFormed) (lbId : Str) (p : Protocol)
    (up : Bool)
    (alg : Option LbAlgorithm) (hp : ∀ lb ∈ nb.lbsNamed lbId, lb.protocol ≠ some p) :
    Provided env lbId p up nb
      ((provideOvnLb env lbId p up alg (nb.lbsNamed lbId)).run Nb.apply nb).2 := by
  unfold provideOvnLb
  split
  · next row hfind =>
      have hrow : row ∈ nb.lbsNamed lbId := List.mem_of_find?_eq_some hfind
      have hnone : row.protocol = none := by simpa using List.find?_some hfind
      have hlb := hw.lb?_of_mem (Nb.mem_lbsNamed.mp hrow).1
      have hset := Nb.transact_row hw hlb [.setProtocol (some p)] rfl
      rw [List.map_singleton] at hset
      rw [Prog.run_transaction, hset]
      exact .assigned hrow hnone hp
  · next hfind =>
      cases hrows : nb.lbsNamed lbId with
      | nil => exact .failed (fun lb hlb => by rw [hrows] at hlb; cases hlb) (.refl nb)
      | cons first rows =>
          have hfirst : first ∈ nb.lbsNamed lbId := hrows ▸ List.mem_cons_self ..
          have hp' : ∀ lb ∈ nb.lbsNamed lbId, lb.protocol ≠ none ∧ lb.protocol ≠ some p :=
            fun lb hlb => ⟨by simpa using List.find?_eq_none.mp hfind lb hlb, hp lb hlb⟩
          have hrun : ((do
              let _ ← lbCreate env (copyLbInfo env lbId first up alg) (some p)
              : Nbctl Unit).run Nb.apply nb).2 =
              ((lbCreate env (copyLbInfo env lbId first up alg) (some p)).run Nb.apply nb).2 := by
            rw [Prog.run_bind]
            rcases (lbCreate env (copyLbInfo env lbId first up alg) (some p)).run Nb.apply nb with
              ⟨e | s, nb'⟩
            · rfl
            · rfl
          rw [hrun]
          rcases lbCreate_outcome env (copyLbInfo env lbId first up alg) (some p) nb with
            ⟨h, -⟩ | ⟨vip, vipPortId, up', fields, hvip, hup, hport, h⟩
          · exact .failed hp' h
          · cases hup
            exact .created hfirst hp' hvip (vipPortId_of_given rfl hport) h

theorem getOrCreateOvnLb_provided (env : Env) (hw : nb.WellFormed) (lbId : Str) (p : Protocol)
    (up : Bool)
    (alg : Option LbAlgorithm) :
    ((getOrCreateOvnLb env lbId p up alg).run Nb.apply nb).2 = nb ∨
      Provided env lbId p up nb ((getOrCreateOvnLb env lbId p up alg).run Nb.apply nb).2 := by
  simp only [getOrCreateOvnLb, Prog.run_bind, run_findOvnLbs]
  by_cases hrows : nb.lbsNamed lbId = []
  · rw [if_pos hrows]
    exact .inl rfl
  · rw [if_neg hrows]
    dsimp only
    split
    · exact .inl rfl
    · next hfind =>
        have hp : ∀ lb ∈ nb.lbsNamed lbId, lb.protocol ≠ some p := by
          intro lb hlb
          simpa using List.find?_eq_none.mp hfind lb hlb
        have hprovide := provideOvnLb_provided env hw lbId p up alg hp
        rw [Prog.run_bind]
        rcases hrun : (provideOvnLb env lbId p up alg (nb.lbsNamed lbId)).run Nb.apply nb with
          ⟨e | _, nb'⟩
        · rw [hrun] at hprovide
          exact .inr hprovide
        · rw [hrun] at hprovide
          dsimp only
          rw [run_findOvnLb nb' lbId]
          exact .inr hprovide

theorem Provided.wellFormed (hw : nb.WellFormed) {lbId : Str} {p : Protocol} {up : Bool}
    {nb' : Nb} (h : Provided env lbId p up nb nb') : nb'.WellFormed := by
  cases h with
  | failed hp h => exact h.wellFormed hw
  | assigned hrow hnone hp => exact hw.putLb _
  | created hfirst hp hvip hport h => exact h.wellFormed (hw.createLb ..)

theorem getOrCreateOvnLb_wellFormed (hw : nb.WellFormed) {lbId : Str} {p : Protocol} {up : Bool}
    {alg : Option LbAlgorithm} {r : Except Exc LoadBalancer} {nb' : Nb}
    (h : (getOrCreateOvnLb env lbId p up alg).run Nb.apply nb = (r, nb')) : nb'.WellFormed := by
  have hprovided := getOrCreateOvnLb_provided env hw lbId p up alg
  rw [h] at hprovided
  rcases hprovided with rfl | hprovided
  · exact hw
  · exact hprovided.wellFormed hw

/-- A row that stands alone has a protocol once it was provided. -/
theorem Provided.protocol_of_single (hw : nb.WellFormed) {lbId : Str} {p : Protocol} {up : Bool}
    {nb' : Nb} (h : Provided env lbId p up nb nb') {lb : LoadBalancer}
    (hone : nb'.lbsNamed lbId = [lb]) :
    lb.protocol ≠ none := by
  have hlb : lb ∈ nb'.lbsNamed lbId := hone ▸ List.mem_singleton_self lb
  cases h with
  | failed hp h =>
      obtain ⟨row, hrow, hs⟩ := h.exists_of_mem_named hlb
      rw [hs.protocol]
      exact (hp row hrow).1
  | @assigned row hrow hnone hp =>
      have hget := hw.lb?_of_mem (Nb.mem_lbsNamed.mp hrow).1
      rw [Nb.lbsNamed_putLb hw { row with protocol := some p } hget rfl] at hone
      have : ({ row with protocol := some p } : LoadBalancer) ∈ [lb] := by
        rw [← hone]
        exact List.mem_map.mpr ⟨row, hrow, if_pos rfl⟩
      rw [← List.mem_singleton.mp this]
      exact Option.some_ne_none p
  | created hfirst hp hvip hport h =>
      obtain ⟨row, hrow, hs⟩ := h.exists_of_mem_named hlb
      rw [hs.protocol]
      obtain ⟨hrow, hname⟩ := Nb.mem_lbsNamed.mp hrow
      rcases List.mem_append.mp hrow with hrow | hrow
      · exact (hp row (Nb.mem_lbsNamed.mpr ⟨hrow, hname⟩)).1
      · rw [List.mem_singleton.mp hrow]
        exact Option.some_ne_none p

/-- The row obtained is one of the load balancer's, of the protocol. -/
theorem getOrCreateOvnLb_row (hw : nb.WellFormed) {lbId : Str} {p : Protocol} {up : Bool}
    {alg : Option LbAlgorithm} {lb : LoadBalancer} {nb' : Nb}
    (h : (getOrCreateOvnLb env lbId p up alg).run Nb.apply nb = (.ok lb, nb')) :
    lb ∈ nb'.lbsNamed lbId ∧ lb.protocol = some p := by
  simp only [getOrCreateOvnLb, Prog.run_bind, run_findOvnLbs] at h
  by_cases hrows : nb.lbsNamed lbId = []
  · rw [if_pos hrows] at h
    cases h
  · rw [if_neg hrows] at h
    dsimp only at h
    split at h
    · next row hfind =>
        cases h
        exact ⟨List.mem_of_find?_eq_some hfind, by simpa using List.find?_some hfind⟩
    · next hfind =>
        have hp : ∀ lb ∈ nb.lbsNamed lbId, lb.protocol ≠ some p := by
          intro lb hlb
          simpa using List.find?_eq_none.mp hfind lb hlb
        have hprovide := provideOvnLb_provided env hw lbId p up alg hp
        rw [Prog.run_bind] at h
        rcases hrun : (provideOvnLb env lbId p up alg (nb.lbsNamed lbId)).run Nb.apply nb with
          ⟨e | _, nb₁⟩
        · rw [hrun] at h
          cases h
        · rw [hrun] at h hprovide
          dsimp only at h
          rw [run_findOvnLb nb₁ lbId] at h
          obtain ⟨hsel, rfl⟩ : selectOvnLb p (nb₁.lbsNamed lbId) = .ok lb ∧ nb₁ = nb' := by
            cases hs : selectOvnLb p (nb₁.lbsNamed lbId) with
            | error e => rw [hs] at h; cases h
            | ok row => rw [hs] at h; cases h; exact ⟨rfl, rfl⟩
          obtain ⟨hlb, hq | ⟨hnone, hone⟩⟩ := selectOvnLb_ok hsel
          · exact ⟨hlb, hq⟩
          · exact absurd hnone (hprovide.protocol_of_single hw hone)

end Creating

section Requests
variable {nb : Nb} (env : Env)

theorem handled_eq (request : Request) (nb : Nb) :
    handled env request nb = ((handle env request).run Nb.apply nb).2 := rfl

/-- The store after a handler whose status is passed on. -/
theorem run_map_some {α : Type} (p : Nbctl α) (nb : Nb) :
    ((some <$> p : Nbctl (Option α)).run Nb.apply nb).2 = (p.run Nb.apply nb).2 := by
  have hmap : (some <$> p : Nbctl (Option α)) = p >>= fun a => pure (some a) := rfl
  rw [hmap, Prog.run_bind]
  rcases p.run Nb.apply nb with ⟨e | a, s⟩
  · rfl
  · rfl

theorem handled_listenerCreate (hw : nb.WellFormed) (info : ListenerInfo) :
    ∃ nb₁, (nb₁ = nb ∨ ∃ up, info.adminStateUp = some up ∧
        Provided env info.loadbalancerId info.protocol up nb nb₁) ∧
      (handled env (.listenerCreate info) nb = nb₁ ∨
        ∃ up row vips, info.adminStateUp = some up ∧ row ∈ nb₁.lbsNamed info.loadbalancerId ∧
          row.protocol = some info.protocol ∧
          frameVipIps env row.externalIds (row.externalIds.set (getListenerKey info.id up)
            (makeListenerKeyValue info.protocolPort (defaultPoolKey info))) = .ok vips ∧
          (nb₁.putLb (createdListener info up row vips)).SameObjects
            (handled env (.listenerCreate info) nb)) := by
  rw [handled_eq, handle, run_map_some, listenerCreate]
  cases hup : info.adminStateUp with
  | none => exact ⟨nb, .inl rfl, .inl rfl⟩
  | some up =>
      refine ⟨_, (getOrCreateOvnLb_provided env hw info.loadbalancerId info.protocol up
        (some .sourceIpPort)).imp_right fun h => ⟨up, rfl, h⟩, ?_⟩
      simp only [Prog.run_bind]
      rcases hrun : (getOrCreateOvnLb env info.loadbalancerId info.protocol up
        (some .sourceIpPort)).run Nb.apply nb with ⟨e | row, nb₁⟩
      · exact .inl rfl
      · have hw₁ := getOrCreateOvnLb_wellFormed hw hrun
        obtain ⟨hrow, hp⟩ := getOrCreateOvnLb_row hw hrun
        have hget := hw₁.lb?_of_mem (Nb.mem_lbsNamed.mp hrow).1
        simp only [Prog.run_attempt, run_listenerCreateOn hw₁ hget]
        cases hf : frameVipIps env row.externalIds (row.externalIds.set (getListenerKey info.id up)
            (makeListenerKeyValue info.protocolPort (defaultPoolKey info))) with
        | error e => exact .inl rfl
        | ok vips =>
            refine .inr ⟨up, row, vips, rfl, hrow, hp, hf, ?_⟩
            exact sameObjects_run (.bind (peripheral_updateLbhcVipPorts env info row)
              fun _ => .pure _) _

theorem handled_listenerDelete (hw : nb.WellFormed) (info : ListenerInfo) :
    (∃ e, selectOvnLb info.protocol (nb.lbsNamed info.loadbalancerId) = .error e ∧
        handled env (.listenerDelete info) nb = nb) ∨
      ∃ row, selectOvnLb info.protocol (nb.lbsNamed info.loadbalancerId) = .ok row ∧
        (handled env (.listenerDelete info) nb = nb ∧
            (getListenerKey info.id true ∉ row.externalIds.keys ∨
              ∃ e, frameVipIps env row.externalIds
                (row.externalIds.erase (getListenerKey info.id true)) = .error e) ∨
          nb.cleaningDeletes info.loadbalancerId
              (isLbEmpty (row.externalIds.erase (getListenerKey info.id true))) = true ∧
            handled env (.listenerDelete info) nb = nb.deleteLb row.uuid ∨
          ∃ vips, frameVipIps env row.externalIds
              (row.externalIds.erase (getListenerKey info.id true)) = .ok vips ∧
            handled env (.listenerDelete info) nb = nb.cleaned info.loadbalancerId
              (isLbEmpty (row.externalIds.erase (getListenerKey info.id true)))
              { row with
                externalIds := row.externalIds.erase (getListenerKey info.id true), vips }) := by
  rw [handled_eq, handle, run_map_some, listenerDelete]
  simp only [Prog.run_bind, Prog.run_attempt, run_findOvnLb]
  cases hsel : selectOvnLb info.protocol (nb.lbsNamed info.loadbalancerId) with
  | error e => exact .inl ⟨e, rfl, by cases e <;> rfl⟩
  | ok row =>
      refine .inr ⟨row, rfl, ?_⟩
      have hget := hw.lb?_of_mem (Nb.mem_lbsNamed.mp (selectOvnLb_ok hsel).1).1
      simp only [Prog.run_bind, run_readLb, live_of_lb? hget]
      by_cases hk : getListenerKey info.id true ∈ row.externalIds.keys
      · have hc := (Dict.contains_iff _ _).mpr hk
        rw [if_pos hc]
        simp only [Prog.run_bind, Prog.run_attempt, run_listenerDeleteOn hw hget]
        cases hd : nb.cleaningDeletes info.loadbalancerId
            (isLbEmpty (row.externalIds.erase (getListenerKey info.id true))) with
        | true => exact .inr (.inl ⟨rfl, rfl⟩)
        | false =>
            simp only [Bool.false_eq_true, if_false]
            cases hf : frameVipIps env row.externalIds
                (row.externalIds.erase (getListenerKey info.id true)) with
            | error e => exact .inl ⟨rfl, .inr ⟨e, rfl⟩⟩
            | ok vips => exact .inr (.inr ⟨vips, rfl, rfl⟩)
      · have hc : ¬row.externalIds.contains (getListenerKey info.id true) = true :=
          fun hc => hk ((Dict.contains_iff _ _).mp hc)
        rw [if_neg hc]
        exact .inl ⟨rfl, .inl hk⟩

theorem handled_listenerUpdate (hw : nb.WellFormed) (info : ListenerInfo) :
    (∃ e, selectOvnLb info.protocol (nb.lbsNamed info.loadbalancerId) = .error e ∧
        handled env (.listenerUpdate info) nb = nb) ∨
      ∃ row, selectOvnLb info.protocol (nb.lbsNamed info.loadbalancerId) = .ok row ∧
        (handled env (.listenerUpdate info) nb = nb ∧
            ((info.adminStateUp = none ∧ info.defaultPoolId = none) ∨
              presentListenerKey row.externalIds info.id = none) ∨
          ∃ key value, presentListenerKey row.externalIds info.id = some key ∧
            row.externalIds.get? key = some value ∧
            ((∃ e, frameVipIps env row.externalIds
                (updatedListenerKeys info key value row.externalIds) = .error e) ∧
                handled env (.listenerUpdate info) nb = nb ∨
              ∃ vips, frameVipIps env row.externalIds
                (updatedListenerKeys info key value row.externalIds) = .ok vips ∧
                handled env (.listenerUpdate info) nb = nb.putLb { row with
                  externalIds := updatedListenerKeys info key value row.externalIds, vips })) := by
  rw [handled_eq, handle, run_map_some, listenerUpdate]
  simp only [Prog.run_bind, Prog.run_attempt, run_findOvnLb]
  cases hsel : selectOvnLb info.protocol (nb.lbsNamed info.loadbalancerId) with
  | error e => exact .inl ⟨e, rfl, by cases e <;> rfl⟩
  | ok row =>
      refine .inr ⟨row, rfl, ?_⟩
      have hget := hw.lb?_of_mem (Nb.mem_lbsNamed.mp (selectOvnLb_ok hsel).1).1
      dsimp only
      split
      · next hn =>
          rw [Bool.and_eq_true, Option.isNone_iff_eq_none, Option.isNone_iff_eq_none] at hn
          exact .inl ⟨rfl, .inl hn⟩
      · simp only [Prog.run_bind, run_readLb, live_of_lb? hget]
        cases hk : presentListenerKey row.externalIds info.id with
        | none => exact .inl ⟨rfl, .inr rfl⟩
        | some key =>
            obtain ⟨value, hv⟩ : ∃ value, row.externalIds.get? key = some value := by
              rw [← Option.isSome_iff_exists]
              unfold presentListenerKey at hk
              split at hk
              · next hc => cases hk; exact hc
              · split at hk
                · next hc => cases hk; exact hc
                · cases hk
            refine .inr ⟨key, value, rfl, hv, ?_⟩
            simp only [Prog.run_bind, Prog.run_attempt, run_listenerUpdateOn hw hget info hv]
            cases hf : frameVipIps env row.externalIds
                (updatedListenerKeys info key value row.externalIds) with
            | error e => exact .inl ⟨⟨e, rfl⟩, rfl⟩
            | ok vips => exact .inr ⟨vips, rfl, rfl⟩

theorem handled_poolCreate (hw : nb.WellFormed) (info : PoolInfo) :
    ∃ nb₁, (nb₁ = nb ∨ ∃ up, info.adminStateUp = some up ∧
        Provided env info.loadbalancerId info.protocol up nb nb₁) ∧
      (handled env (.poolCreate info) nb = nb₁ ∧
          (info.adminStateUp = none ∨ ∃ up e, info.adminStateUp = some up ∧
            ((getOrCreateOvnLb env info.loadbalancerId info.protocol up info.lbAlgorithm).run
              Nb.apply nb).1 = .error e) ∨
        ∃ up row options, info.adminStateUp = some up ∧
          row ∈ nb₁.lbsNamed info.loadbalancerId ∧ row.protocol = some info.protocol ∧
          handled env (.poolCreate info) nb = nb₁.putLb { row with
            externalIds := poolCreateExternalIds info up row.externalIds, options }) := by
  rw [handled_eq, handle, run_map_some, poolCreate]
  cases hup : info.adminStateUp with
  | none => exact ⟨nb, .inl rfl, .inl ⟨rfl, .inl rfl⟩⟩
  | some up =>
      refine ⟨_, (getOrCreateOvnLb_provided env hw info.loadbalancerId info.protocol up
        info.lbAlgorithm).imp_right fun h => ⟨up, rfl, h⟩, ?_⟩
      simp only [Prog.run_bind]
      rcases hrun : (getOrCreateOvnLb env info.loadbalancerId info.protocol up
        info.lbAlgorithm).run Nb.apply nb with ⟨e | row, nb₁⟩
      · exact .inl ⟨rfl, .inr ⟨up, e, rfl, congrArg Prod.fst hrun⟩⟩
      · have hw₁ := getOrCreateOvnLb_wellFormed hw hrun
        obtain ⟨hrow, hp⟩ := getOrCreateOvnLb_row hw hrun
        have hget := hw₁.lb?_of_mem (Nb.mem_lbsNamed.mp hrow).1
        have ho := run_poolCreateOn hw₁ hget info up
        simp only [Prog.run_attempt, ho]
        exact .inr ⟨up, row, _, rfl, hrow, hp, rfl⟩

theorem handled_poolDelete (hw : nb.WellFormed) (info : PoolInfo) :
    (∃ e, selectOvnLb info.protocol (nb.lbsNamed info.loadbalancerId) = .error e ∧
        handled env (.poolDelete info) nb = nb) ∨
      ∃ row, selectOvnLb info.protocol (nb.lbsNamed info.loadbalancerId) = .ok row ∧
        ((∃ e, frameVipIps env row.externalIds
            (row.externalIds.erase (getPoolKey info.id true)) = .error e) ∧
            handled env (.poolDelete info) nb = nb ∨
          ∃ vips options, (if row.externalIds.contains (getPoolKey info.id true) then
              frameVipIps env row.externalIds (row.externalIds.erase (getPoolKey info.id true))
              else .ok row.vips) = .ok vips ∧
            handled env (.poolDelete info) nb = nb.cleaned info.loadbalancerId
              (isLbEmpty (detachPool (getPoolKey info.id true) row.externalIds
                (row.externalIds.erase (getPoolKey info.id true))))
              { row with
                externalIds := poolDeletedKeys info.id row.externalIds, vips, options }) := by
  rw [handled_eq, handle, run_map_some, poolDelete]
  simp only [Prog.run_bind, Prog.run_attempt, run_findOvnLb]
  cases hsel : selectOvnLb info.protocol (nb.lbsNamed info.loadbalancerId) with
  | error e => exact .inl ⟨e, rfl, by cases e <;> rfl⟩
  | ok row =>
      refine .inr ⟨row, rfl, ?_⟩
      have hget := hw.lb?_of_mem (Nb.mem_lbsNamed.mp (selectOvnLb_ok hsel).1).1
      obtain ⟨options, ho⟩ := run_poolDeleteOn env hw hget info
      simp only [Prog.run_bind, run_readLb, live_of_lb? hget, Prog.run_attempt, ho]
      cases hf : (if row.externalIds.contains (getPoolKey info.id true) then
          frameVipIps env row.externalIds (row.externalIds.erase (getPoolKey info.id true))
          else .ok row.vips) with
      | error e =>
          refine .inl ⟨⟨e, ?_⟩, rfl⟩
          split at hf
          · exact hf
          · cases hf
      | ok vips => exact .inr ⟨vips, options, rfl, rfl⟩

theorem handled_poolUpdate (hw : nb.WellFormed) (info : PoolInfo) {up : Bool}
    (hup : info.adminStateUp = some up) :
    (∃ e, selectOvnLb info.protocol (nb.lbsNamed info.loadbalancerId) = .error e ∧
        handled env (.poolUpdate info) nb = nb) ∨
      ∃ row, selectOvnLb info.protocol (nb.lbsNamed info.loadbalancerId) = .ok row ∧
        ((∃ e, frameVipIps env row.externalIds (movedPoolKeys (getPoolKey info.id (!up))
            (getPoolKey info.id up) row.externalIds) = .error e) ∧
            handled env (.poolUpdate info) nb = nb ∨
          ∃ vips options, (if row.externalIds.contains (getPoolKey info.id (!up)) then
              frameVipIps env row.externalIds (movedPoolKeys (getPoolKey info.id (!up))
                (getPoolKey info.id up) row.externalIds)
              else .ok row.vips) = .ok vips ∧
            handled env (.poolUpdate info) nb = nb.putLb { row with
              externalIds := movedPoolKeys (getPoolKey info.id (!up)) (getPoolKey info.id up)
                row.externalIds, vips, options }) := by
  rw [handled_eq, handle, run_map_some, poolUpdate]
  have hn : ¬(info.adminStateUp.isNone && info.sessionPersistence.isNone) = true := by simp [hup]
  rw [if_neg hn]
  simp only [Prog.run_bind, Prog.run_attempt, run_findOvnLb]
  cases hsel : selectOvnLb info.protocol (nb.lbsNamed info.loadbalancerId) with
  | error e => exact .inl ⟨e, rfl, by cases e <;> rfl⟩
  | ok row =>
      refine .inr ⟨row, rfl, ?_⟩
      have hget := hw.lb?_of_mem (Nb.mem_lbsNamed.mp (selectOvnLb_ok hsel).1).1
      have ho := run_poolUpdateOn env hw hget info hup
      simp only [Prog.run_bind, run_readLb, live_of_lb? hget, Prog.run_attempt, ho]
      cases hf : (if row.externalIds.contains (getPoolKey info.id (!up)) then
          frameVipIps env row.externalIds (movedPoolKeys (getPoolKey info.id (!up))
            (getPoolKey info.id up) row.externalIds)
          else .ok row.vips) with
      | error e =>
          refine .inl ⟨⟨e, ?_⟩, rfl⟩
          split at hf
          · exact hf
          · cases hf
      | ok vips => exact .inr ⟨vips, _, rfl, rfl⟩

section Found
variable {row : LoadBalancer} {up : Bool}

/-- A pool created on the row of its protocol. -/
theorem handled_poolCreate_found (hw : nb.WellFormed) {info : PoolInfo}
    (hsel : selectOvnLb info.protocol (nb.lbsNamed info.loadbalancerId) = .ok row)
    (hp : row.protocol = some info.protocol) (hup : info.adminStateUp = some up) :
    handled env (.poolCreate info) nb = nb.putLb { row with
      externalIds := poolCreateExternalIds info up row.externalIds
      options := affinityOptions (createdTimeout info) row.options } := by
  have hrow := (selectOvnLb_ok hsel).1
  have hget := hw.lb?_of_mem (Nb.mem_lbsNamed.mp hrow).1
  have hcreate : (getOrCreateOvnLb env info.loadbalancerId info.protocol up info.lbAlgorithm).run
      Nb.apply nb = (.ok row, nb) := by
    simp only [getOrCreateOvnLb, Prog.run_bind, run_findOvnLbs, if_neg (List.ne_nil_of_mem hrow),
      find?_of_selectOvnLb hsel hp, Prog.run_pure]
  rw [handled_eq, handle, run_map_some, poolCreate, hup]
  simp only [Prog.run_bind, hcreate, Prog.run_attempt, run_poolCreateOn hw hget info up]
  rfl

/-- An update of a pool's admin state on the row of its protocol. -/
theorem handled_poolUpdate_found (hw : nb.WellFormed) {info : PoolInfo}
    (hsel : selectOvnLb info.protocol (nb.lbsNamed info.loadbalancerId) = .ok row)
    (hup : info.adminStateUp = some up) :
    handled env (.poolUpdate info) nb =
      match (if row.externalIds.contains (getPoolKey info.id (!up)) then
          frameVipIps env row.externalIds (movedPoolKeys (getPoolKey info.id (!up))
            (getPoolKey info.id up) row.externalIds) else .ok row.vips) with
      | .error _ => nb
      | .ok vips => nb.putLb { row with
          externalIds := movedPoolKeys (getPoolKey info.id (!up)) (getPoolKey info.id up)
            row.externalIds
          vips, options := affinityOptions (updatedTimeout info) row.options } := by
  have hget := hw.lb?_of_mem (Nb.mem_lbsNamed.mp (selectOvnLb_ok hsel).1).1
  rw [handled_eq, handle, run_map_some, poolUpdate,
    if_neg (by simp [hup] : ¬(info.adminStateUp.isNone && info.sessionPersistence.isNone) = true)]
  simp only [Prog.run_bind, Prog.run_attempt, run_findOvnLb, hsel, run_readLb, live_of_lb? hget,
    run_poolUpdateOn env hw hget info hup]
  cases (if row.externalIds.contains (getPoolKey info.id (!up)) then
      frameVipIps env row.externalIds (movedPoolKeys (getPoolKey info.id (!up))
        (getPoolKey info.id up) row.externalIds) else .ok row.vips) with
  | error e => rfl
  | ok vips => rfl

end Found

end Requests

end OvnOctavia

import OvnOctavia.Driver
import OvnOctavia.MonitorRuns

/-!
A batch of members against one call a member: when both queue the same requests.
-/

namespace OvnOctavia

/-- A request with the fields that its handler reads. -/
def Request.fieldsRead : Request → Request
  | .memberDelete info => .memberDelete { info with adminStateUp := none }
  | .memberUpdate info =>
      .memberUpdate { id := info.id, poolId := info.poolId, adminStateUp := info.adminStateUp }
  | .handleMemberDvr info added =>
      .handleMemberDvr { info with protocolPort := none, adminStateUp := none } added
  | r => r

theorem handle_fieldsRead (env : Env) (r : Request) : handle env r.fieldsRead = handle env r := by
  cases r with
  | memberDelete info => rfl
  | memberUpdate info => rfl
  | handleMemberDvr info added => rfl
  | _ => rfl

/-- What a call queues: nothing when it raises. -/
def queued (nb : Nb) (call : Nbctl (List Request)) : List Request :=
  match (call.run Nb.apply nb).1 with
  | .ok requests => requests
  | .error _ => []

namespace Octavia.Member
variable (env : Env)

/-- The entry of the member in its pool, unless its subnet is not to be found. -/
def entry (m : Member) : Option Str :=
  (memberSubnet env m.poolId m.address m.subnetId).toOption.map
    (memberText m.memberId m.address (Str.ofNat m.protocolPort))

/-- The member is among the entries already there. -/
def Kept (existing : List Str) (m : Member) : Prop := ∃ e ∈ existing, m.entry env = some e

instance (existing : List Str) (m : Member) : Decidable (m.Kept env existing) :=
  inferInstanceAs (Decidable (∃ e ∈ existing, m.entry env = some e))

/-- The object Octavia has of a pool entry. -/
structure Describes (poolId : Str) (m : Member) (d : MemberData) : Prop where
  memberId : m.memberId = d.id
  address : m.address = d.ip
  protocolPort : Str.ofNat m.protocolPort = d.port
  poolId : m.poolId = poolId
  subnet : memberSubnet env m.poolId m.address m.subnetId = .ok d.subnet

end Octavia.Member

/-- The call for a requested member: an update if it is kept, else a creation. -/
def requestedCall (env : Env) (existing : List Str) (m : Octavia.Member) : Nbctl (List Request) :=
  if m.Kept env existing then
    Driver.memberUpdate env m m.monitorOptions (some m.address) m.adminStateUp
  else Driver.memberCreate env m

/-- The requests of one call a member: a creation of each new member, an update of each
that is kept, a deletion of each that is left out. -/
def oneByOne (env : Env) (nb : Nb) (existing : List Str) (members leftOut : List Octavia.Member) :
    List Request :=
  members.flatMap (fun m => queued nb (requestedCall env existing m)) ++
  leftOut.flatMap fun m => queued nb (Prog.ofExcept (Driver.memberDelete env m))

section Requests
variable {env : Env} {nb : Nb} {poolId : Str}

theorem run_ipVersionDiffers (env : Env) (nb : Nb) (poolId address : Str) :
    ((ipVersionDiffers env poolId address).run Nb.apply nb).2 = nb := by
  rw [ipVersionDiffers, Prog.run_bind, run_findOvnLbByPoolId]
  rcases nb.poolRow poolId with ⟨key, _ | lb⟩
  · rfl
  · simp only [Prog.run_ofExcept]

/-- The request of a batch for one of its members. -/
def batchRequest (env : Env) (existing : List Str) (m : Octavia.Member) : Request :=
  let subnetId := (memberSubnet env m.poolId m.address m.subnetId).toOption.getD []
  let info := { memberInfoOf m subnetId with adminStateUp := some (m.adminStateUp.getD true) }
  if m.Kept env existing then .memberUpdate info else .memberCreate info

/-- The checks of a batch let the member through. -/
structure Octavia.Member.Passes (env : Env) (nb : Nb) (m : Octavia.Member) : Prop where
  monitorOptions : m.monitorOptions = false
  version : m.address ≠ [] →
    (ipVersionDiffers env m.poolId m.address).run Nb.apply nb = (.ok false, nb)
  subnet : ∃ s, memberSubnet env m.poolId m.address m.subnetId = .ok s

theorem Octavia.Member.entry_of_subnet {m : Octavia.Member} {s : Str}
    (h : memberSubnet env m.poolId m.address m.subnetId = .ok s) :
    m.entry env = some (memberText m.memberId m.address (Str.ofNat m.protocolPort) s) := by
  rw [entry, h]
  rfl

theorem Octavia.Member.kept_iff_of_subnet {m : Octavia.Member} {s : Str} (existing : List Str)
    (h : memberSubnet env m.poolId m.address m.subnetId = .ok s) :
    m.Kept env existing ↔
      memberText m.memberId m.address (Str.ofNat m.protocolPort) s ∈ existing := by
  rw [Kept, m.entry_of_subnet h]
  constructor
  · rintro ⟨e, he, heq⟩
    cases heq
    exact he
  · exact fun hm => ⟨_, hm, rfl⟩

theorem run_checkBatchMember {m : Octavia.Member} {s : Str} {nb' : Nb} (hpool : m.poolId = poolId)
    (h : (Driver.checkBatchMember env poolId m).run Nb.apply nb = (.ok s, nb')) :
    nb' = nb ∧ m.Passes env nb ∧ memberSubnet env m.poolId m.address m.subnetId = .ok s := by
  simp only [Driver.checkBatchMember, checkMemberMonitorOptions] at h
  cases hopt : m.monitorOptions with
  | true =>
      rw [hopt, if_pos rfl, Prog.run_bind] at h
      cases h
  | false =>
      rw [hopt, if_neg Bool.false_ne_true, Prog.run_bind] at h
      subst hpool
      by_cases hne : m.address ≠ []
      · simp only [Prog.run_ofExcept, if_pos hne] at h
        rw [Prog.run_bind] at h
        have hsame := run_ipVersionDiffers env nb m.poolId m.address
        generalize hv : (ipVersionDiffers env m.poolId m.address).run Nb.apply nb = r at h hsame
        obtain ⟨e | b, s'⟩ := r
        · cases h
        · cases hsame
          cases b with
          | true => cases h
          | false =>
              simp only [Bool.false_eq_true, if_false, Prog.run_ofExcept, Prod.mk.injEq] at h
              exact ⟨h.2.symm, ⟨hopt, fun _ => hv, s, h.1⟩, h.1⟩
      · simp only [if_neg hne, Prog.run_ofExcept, Prod.mk.injEq] at h
        exact ⟨h.2.symm, ⟨hopt, fun hne' => absurd hne' hne, s, h.1⟩, h.1⟩

/-- The members of an accepted batch: each passes the checks and gives one request, and the
entries of the members are taken out of those to delete. -/
theorem run_batchRequests {existing : List Str} {members : List Octavia.Member}
    {toDelete rest : List Str} {requests : List Request} {nb' : Nb}
    (hpool : ∀ m ∈ members, m.poolId = poolId) (hsub : ∀ e ∈ toDelete, e ∈ existing)
    (h : (Driver.batchRequests env poolId existing members toDelete).run Nb.apply nb =
      (.ok (requests, rest), nb')) :
    nb' = nb ∧ (∀ m ∈ members, m.Passes env nb) ∧
      rest = toDelete.diff (members.filterMap (Octavia.Member.entry env)) ∧
      requests = members.map (batchRequest env existing) := by
  induction members generalizing toDelete requests rest nb' with
  | nil =>
      cases h
      exact ⟨rfl, fun _ hm => absurd hm List.not_mem_nil, rfl, rfl⟩
  | cons m members ih =>
      have hpool' : ∀ m ∈ members, m.poolId = poolId := fun m hm =>
        hpool m (List.mem_cons_of_mem _ hm)
      rw [Driver.batchRequests, Prog.run_bind] at h
      generalize hc : (Driver.checkBatchMember env poolId m).run Nb.apply nb = r at h
      obtain ⟨e | s, nb₁⟩ := r
      · cases h
      obtain ⟨rfl, hp, hs⟩ := run_checkBatchMember (hpool m (List.mem_cons_self ..)) hc
      have hentry := m.entry_of_subnet hs
      have hkept := m.kept_iff_of_subnet existing hs
      simp only [] at h
      rw [List.filterMap_cons_some hentry, List.map_cons, batchRequest, hs, List.diff_cons]
      by_cases hold : memberText m.memberId m.address (Str.ofNat m.protocolPort) s ∈ existing
      · by_cases hleft : memberText m.memberId m.address (Str.ofNat m.protocolPort) s ∈ toDelete
        · rw [if_neg (not_not.mpr hold), if_neg (not_not.mpr hleft), Prog.run_bind] at h
          generalize hl : (Driver.batchRequests env poolId existing members _).run Nb.apply nb₁ = r
            at h
          obtain ⟨e | ⟨reqs, left⟩, nb₂⟩ := r
          · cases h
          obtain ⟨rfl, hps, rfl, rfl⟩ :=
            ih hpool' (fun e he => hsub e (List.mem_of_mem_erase he)) hl
          cases h
          rw [if_pos (hkept.mpr hold)]
          exact ⟨rfl, List.forall_mem_cons.mpr ⟨hp, hps⟩, rfl, rfl⟩
        · rw [if_neg (not_not.mpr hold), if_pos hleft] at h
          cases h
      · -- a new member's entry is not among those to delete
        rw [if_pos hold, Prog.run_bind] at h
        generalize hl : (Driver.batchRequests env poolId existing members toDelete).run
          Nb.apply nb₁ = r
          at h
        obtain ⟨e | ⟨reqs, left⟩, nb₂⟩ := r
        · cases h
        obtain ⟨rfl, hps, rfl, rfl⟩ := ih hpool' hsub hl
        cases h
        rw [List.erase_of_not_mem fun hm => hold (hsub _ hm), if_neg (hkept.not.mpr hold)]
        exact ⟨rfl, List.forall_mem_cons.mpr ⟨hp, hps⟩, rfl, rfl⟩

/-- The call for a member that is new queues its creation and the centralising of its
floating IP, or nothing. -/
theorem queued_memberCreate (env : Env) (nb : Nb) (m : Octavia.Member) :
    queued nb (Driver.memberCreate env m) = [] ∨ ∃ info info',
      queued nb (Driver.memberCreate env m) =
        [.memberCreate info, .handleMemberDvr info' true] := by
  rw [queued, Driver.memberCreate, Prog.run_bind]
  rcases (checkNewMember env m).run Nb.apply nb with ⟨e | s, nb'⟩
  · exact .inl rfl
  · exact .inr ⟨_, _, rfl⟩

theorem queued_memberUpdate {m : Octavia.Member} (h : m.Passes env nb) :
    (queued nb (Driver.memberUpdate env m m.monitorOptions (some m.address) m.adminStateUp)).map
      Request.fieldsRead =
    [.memberUpdate
      { id := m.memberId, poolId := some m.poolId, adminStateUp := m.adminStateUp }] := by
  rw [queued, Driver.memberUpdate, checkMemberMonitorOptions, h.monitorOptions,
    if_neg Bool.false_ne_true, Prog.run_bind]
  have hv := h.version
  rcases haddr : m.address with _ | ⟨c, address⟩
  · rfl
  · rw [haddr] at hv
    simp only [Prog.run_ofExcept]
    rw [Prog.run_bind, hv (List.cons_ne_nil c address)]
    rfl

theorem MemberData.Plain.batchDelete {d : MemberData} (hd : d.Plain) :
    Driver.batchDelete poolId d.text = .ok [
      .memberDelete { id := d.id, address := some d.ip, protocolPort := some d.port
                      poolId := some poolId, subnetId := some d.subnet },
      .handleMemberDvr { id := d.id, address := some d.ip, poolId := some poolId
                         subnetId := some d.subnet } false] := by
  have hparts : (d.text.splitOn '_').length = 4 := by
    rw [hd.splitOn_text]
    rfl
  have hid : memberIdOf d.text = .ok d.id := memberIdOf_memberText hd.id_chars.1
  simp only [Driver.batchDelete, hd.extractInfo, Except.ok_bind, hid, if_pos hparts]
  rfl

theorem batchDelete_describes (nb : Nb) {m : Octavia.Member} {d : MemberData}
    (hd : d.WellFormed env)
    (h : m.Describes env poolId d) : ∃ requests, Driver.batchDelete poolId d.text = .ok requests ∧
      requests.map Request.fieldsRead =
        (queued nb (Prog.ofExcept (Driver.memberDelete env m))).map Request.fieldsRead := by
  refine ⟨_, hd.plain.batchDelete, ?_⟩
  rw [queued, Prog.run_ofExcept, Driver.memberDelete, h.subnet, Except.ok_bind]
  simp only [pure, Except.pure, memberInfoOf, h.memberId, h.address, h.protocolPort, h.poolId]
  rfl

/-- The entries left out give the requests of one deletion each. -/
theorem deleted_eq {ds : List MemberData} (hd : ∀ d ∈ ds, d.WellFormed env) {left : List Str}
    {leftOut : List Octavia.Member} {deleted : List (List Request)}
    (hleft : List.Forall₂ (fun e m => ∃ d ∈ ds, e = d.text ∧ m.Describes env poolId d) left leftOut)
    (h : left.mapM (Driver.batchDelete poolId) = .ok deleted) :
    deleted.flatten.map Request.fieldsRead =
      (leftOut.flatMap fun m => queued nb (Prog.ofExcept (Driver.memberDelete env m))).map
        Request.fieldsRead := by
  induction hleft generalizing deleted with
  | nil => cases h; rfl
  | cons hm _ ih =>
      obtain ⟨d, hmem, rfl, hdesc⟩ := hm
      obtain ⟨requests, hreq, hread⟩ := batchDelete_describes nb (hd d hmem) hdesc
      rw [List.mapM_cons, hreq, Except.ok_bind] at h
      obtain ⟨rest, hrest, heq⟩ := Except.bind_eq_ok.mp h
      cases heq
      rw [List.flatten_cons, List.flatMap_cons, List.map_append, List.map_append, hread, ih hrest]

end Requests

section Agreement
variable {env : Env} {nb : Nb} {existing : List Str} {members : List Octavia.Member}

/-- The request of a member of a batch is no side request. -/
theorem batchRequest_ne_dvr (m : Octavia.Member) (info : MemberInfo) :
    (batchRequest env existing m).fieldsRead ≠ .handleMemberDvr info true := by
  rw [batchRequest]
  split <;> intro h <;> cases h

/-- A batch gives every member an admin state. -/
theorem batchRequest_ne_unset (m : Octavia.Member) {info : MemberInfo}
    (h : info.adminStateUp = none) :
    (batchRequest env existing m).fieldsRead ≠ .memberUpdate info := by
  rw [batchRequest]
  split
  · intro heq
    cases heq
    cases h
  · intro heq
    cases heq

/-- The calls for the members queue what the batch has for them exactly when no member is
new and each has its admin state set. -/
theorem requested_perm_iff (hp : ∀ m ∈ members, m.Passes env nb) :
    ((members.map (batchRequest env existing)).map Request.fieldsRead).Perm
      ((members.flatMap fun m => queued nb (requestedCall env existing m)).map
        Request.fieldsRead) ↔
      ∀ m ∈ members, m.Kept env existing ∧ m.adminStateUp.isSome := by
  constructor
  · intro h m hm
    have hkept : m.Kept env existing := by
      by_contra hnew
      -- the creation the batch has is one call's, and that call centralises as well
      have hmem : (batchRequest env existing m).fieldsRead ∈
          (members.map (batchRequest env existing)).map Request.fieldsRead :=
        List.mem_map_of_mem (List.mem_map_of_mem hm)
      obtain ⟨r, hr, heq⟩ := List.mem_map.mp (h.mem_iff.mp hmem)
      obtain ⟨m', hm', hr⟩ := List.mem_flatMap.mp hr
      by_cases hk : m'.Kept env existing
      · rw [requestedCall, if_pos hk] at hr
        have := List.mem_map_of_mem (f := Request.fieldsRead) hr
        rw [queued_memberUpdate (hp m' hm'), heq, batchRequest, if_neg hnew] at this
        cases List.mem_singleton.mp this
      · have hq := queued_memberCreate env nb m'
        rw [requestedCall, if_neg hk] at hr
        obtain hnil | ⟨info, info', hq⟩ := hq
        · rw [hnil] at hr
          cases hr
        · have hdvr : Request.handleMemberDvr info' true ∈ members.flatMap fun m => queued nb
              (if m.Kept env existing then
                Driver.memberUpdate env m m.monitorOptions (some m.address) m.adminStateUp
              else Driver.memberCreate env m) := by
            refine List.mem_flatMap.mpr ⟨m', hm', ?_⟩
            rw [if_neg hk, hq]
            exact List.mem_cons_of_mem _ (List.mem_singleton_self _)
          obtain ⟨r', hr', heq'⟩ := List.mem_map.mp (h.mem_iff.mpr (List.mem_map_of_mem hdvr))
          obtain ⟨m'', _, rfl⟩ := List.mem_map.mp hr'
          exact batchRequest_ne_dvr m'' _ heq'
    refine ⟨hkept, ?_⟩
    rw [Option.isSome_iff_ne_none]
    intro hunset
    have hmem : Request.memberUpdate ⟨m.memberId, none, none, some m.poolId, none, m.adminStateUp⟩ ∈
        (members.flatMap fun m => queued nb (requestedCall env existing m)).map
          Request.fieldsRead := by
      rw [List.map_flatMap]
      refine List.mem_flatMap.mpr ⟨m, hm, ?_⟩
      rw [requestedCall, if_pos hkept, queued_memberUpdate (hp m hm)]
      exact List.mem_singleton_self _
    obtain ⟨r, hr, heq⟩ := List.mem_map.mp (h.mem_iff.mpr hmem)
    obtain ⟨m', _, rfl⟩ := List.mem_map.mp hr
    exact batchRequest_ne_unset m' hunset heq
  · intro h
    have heq : (members.map (batchRequest env existing)).map Request.fieldsRead =
        (members.flatMap fun m => queued nb (requestedCall env existing m)).map
          Request.fieldsRead := by
      rw [List.map_flatMap, List.map_map, ← List.flatMap_pure_eq_map]
      refine List.flatMap_congr fun m hm => ?_
      obtain ⟨hkept, hset⟩ := h m hm
      obtain ⟨up, hup⟩ := Option.isSome_iff_exists.mp hset
      rw [requestedCall, if_pos hkept, queued_memberUpdate (hp m hm)]
      show [(batchRequest env existing m).fieldsRead] = _
      rw [batchRequest, if_pos hkept, hup]
      rfl
    exact .of_eq heq

/-- The requests of a batch are those of one call a member exactly when no member is new
and each has its admin state set. -/
theorem batchUpdate_iff {nb' : Nb} {poolId poolKey : Str} {lb : LoadBalancer}
    {ds : List MemberData} {batch : List Request} {leftOut : List Octavia.Member}
    (hrow : nb.poolRow poolId = (poolKey, some lb))
    (hvalue : lb.externalIds.get? poolKey = some (poolValue ds))
    (hd : ∀ d ∈ ds, d.WellFormed env) (hpool : ∀ m ∈ members, m.poolId = poolId)
    (haccepted : (Driver.memberBatchUpdate env poolId members).run Nb.apply nb = (.ok batch, nb'))
    (hleft : List.Forall₂ (fun e m => ∃ d ∈ ds, e = d.text ∧ m.Describes env poolId d)
      ((ds.map MemberData.text).diff (members.filterMap (Octavia.Member.entry env))) leftOut) :
    (batch.map Request.fieldsRead).Perm
      ((oneByOne env nb (ds.map MemberData.text) members leftOut).map Request.fieldsRead) ↔
      ∀ m ∈ members, m.Kept env (ds.map MemberData.text) ∧ m.adminStateUp.isSome := by
  rw [Driver.memberBatchUpdate, Prog.run_bind, run_findOvnLbByPoolId, hrow] at haccepted
  simp only [hvalue, poolItems_poolValue hd] at haccepted
  rw [Prog.run_bind] at haccepted
  generalize hl : (Driver.batchRequests env poolId _ members _).run Nb.apply nb = r at haccepted
  obtain ⟨e | ⟨requests, left⟩, nb₁⟩ := r
  · cases haccepted
  obtain ⟨rfl, hp, rfl, rfl⟩ := run_batchRequests hpool (fun _ he => he) hl
  simp only [] at haccepted
  rw [Prog.run_bind, Prog.run_ofExcept] at haccepted
  generalize hdel : List.mapM (Driver.batchDelete poolId) _ = deleted at haccepted
  cases deleted with
  | error e => cases haccepted
  | ok deleted =>
      cases haccepted
      rw [oneByOne, List.map_append, List.map_append, deleted_eq hd hleft hdel,
        List.perm_append_right_iff]
      exact requested_perm_iff hp

end Agreement

section Example

/-- A request that keeps one of the members of the pool. -/
def exampleKept : Octavia.Member :=
  { memberId := exampleServer.id, address := exampleServer.ip, protocolPort := 80
    poolId := exampleId 'c', subnetId := some exampleServer.subnet, adminStateUp := some true }

/-- The other member of the pool, as Octavia has it. -/
def exampleDropped : Octavia.Member :=
  { memberId := exampleTwin.id, address := exampleTwin.ip, protocolPort := 81
    poolId := exampleId 'c', subnetId := some exampleTwin.subnet, adminStateUp := some true }

/-- A member the pool does not have. -/
def exampleNewcomer : Octavia.Member :=
  { memberId := exampleId 'd', address := "10.0.0.8".toList, protocolPort := 80
    poolId := exampleId 'c', subnetId := some "sub".toList, adminStateUp := some true }

/-- What a batch queues for the pool of the two members. -/
def exampleBatch (members : List Octavia.Member) : List Request :=
  queued exampleTwinsNb (Driver.memberBatchUpdate exampleEnv (exampleId 'c') members)

theorem batchUpdate_exampleKept :
    (((exampleBatch [exampleKept]).map Request.fieldsRead).Perm
      ((oneByOne exampleEnv exampleTwinsNb ([exampleServer, exampleTwin].map MemberData.text)
        [exampleKept] [exampleDropped]).map Request.fieldsRead) ↔
      ∀ m ∈ [exampleKept], m.Kept exampleEnv ([exampleServer, exampleTwin].map MemberData.text) ∧
        m.adminStateUp.isSome) := by
  have hleft : ([exampleServer, exampleTwin].map MemberData.text).diff
      ([exampleKept].filterMap (Octavia.Member.entry exampleEnv)) = [exampleTwin.text] := by
    decide +kernel
  have hrow : exampleTwinsNb.poolRow (exampleId 'c') =
      (getPoolKey (exampleId 'c') true, some exampleTwinsRow) := by decide +kernel
  have haccepted : (Driver.memberBatchUpdate exampleEnv (exampleId 'c') [exampleKept]).run Nb.apply
      exampleTwinsNb = (.ok (exampleBatch [exampleKept]), exampleTwinsNb) := by decide +kernel
  refine batchUpdate_iff hrow (by decide +kernel) exampleTwins_wellFormed
    (fun m hm => by rw [List.mem_singleton.mp hm]; rfl) haccepted ?_
  rw [hleft]
  exact .cons ⟨exampleTwin, List.mem_cons_of_mem _ (List.mem_singleton_self _), rfl,
    ⟨rfl, rfl, by decide +kernel, rfl, by decide +kernel⟩⟩ .nil

/-- A batch with a new member lacks the request that centralises its floating IP. -/
theorem batchUpdate_exampleNewcomer :
    (Driver.memberBatchUpdate exampleEnv (exampleId 'c') [exampleKept, exampleNewcomer]).run
      Nb.apply exampleTwinsNb = (.ok (exampleBatch [exampleKept, exampleNewcomer]),
        exampleTwinsNb) ∧
    ((([exampleServer, exampleTwin].map MemberData.text).diff
      ([exampleKept, exampleNewcomer].filterMap (Octavia.Member.entry exampleEnv))) =
        [exampleTwin.text] ∧ exampleDropped.Describes exampleEnv (exampleId 'c') exampleTwin) ∧
    ¬ ((exampleBatch [exampleKept, exampleNewcomer]).map Request.fieldsRead).Perm
      ((oneByOne exampleEnv exampleTwinsNb ([exampleServer, exampleTwin].map MemberData.text)
        [exampleKept, exampleNewcomer] [exampleDropped]).map Request.fieldsRead) :=
  ⟨by decide +kernel, ⟨by decide +kernel, ⟨rfl, rfl, by decide +kernel, rfl, by decide +kernel⟩⟩,
    by decide +kernel⟩

end Example

end OvnOctavia

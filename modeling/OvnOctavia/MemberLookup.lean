import OvnOctavia.PoolMembers

/-!
The search for the member of an address in a pool. After any requests it answers from the
members that the pool has, but for a pool without members, on which it raises.
-/

namespace OvnOctavia

section Lookup

def getExistingPoolMembers (poolId : Str) : Nbctl Str := do
  let (poolKey, lb) ← findOvnLbByPoolId poolId
  match lb with
  | none => throw .driverError
  | some lb =>
      let row ← readLb lb
      match row.externalIds.get? poolKey with
      | some members => return members
      | none => throw .keyError

/-- The id in the first item with the address, `ip:port`. -/
def memberIdIn (memAddrPort : Option Str) : List Str → Except Exc (Option Str)
  | [] => .ok none
  | meminf :: rest =>
      match (meminf.splitOn '_')[2]? with
      | none => .error .indexError
      | some addrPort =>
          if memAddrPort = some addrPort then some <$> memberIdOf meminf
          else memberIdIn memAddrPort rest

def getPoolMemberId (poolId : Str) (memAddrPort : Option Str) : Nbctl (Option Str) := do
  let existingMembers ← getExistingPoolMembers poolId
  Prog.ofExcept (memberIdIn memAddrPort (existingMembers.splitOn ','))

end Lookup

section Items
variable {env : Env} {d : MemberData} {ds : List MemberData}

/-- The address and port of a member, as its item has them. -/
def MemberData.addrPort (d : MemberData) : Str := d.ip ++ ':' :: d.port

/-- The first member with the address is found among the items of a pool. -/
theorem memberIdIn_map_text (hds : ∀ d ∈ ds, d.WellFormed env) (memAddrPort : Option Str) :
    memberIdIn memAddrPort (ds.map MemberData.text) =
      .ok ((ds.find? fun d => memAddrPort = some d.addrPort).map MemberData.id) := by
  induction ds with
  | nil => rfl
  | cons d ds ih =>
      rw [List.forall_mem_cons] at hds
      rw [List.map_cons, memberIdIn, hds.1.plain.splitOn_text, List.find?_cons]
      change (if memAddrPort = some d.addrPort then some <$> memberIdOf d.text else _) = _
      by_cases h : memAddrPort = some d.addrPort
      · rw [if_pos h, hds.1.memberIdOf_text, decide_eq_true h]
        rfl
      · rw [if_neg h, ih hds.2, decide_eq_false h]

/-- The value of a pool without members is one item that is no member. -/
theorem memberIdIn_poolValue (hds : ∀ d ∈ ds, d.WellFormed env) (memAddrPort : Option Str) :
    memberIdIn memAddrPort ((poolValue ds).splitOn ',') =
      if ds = [] then .error .indexError
      else .ok ((ds.find? fun d => memAddrPort = some d.addrPort).map MemberData.id) := by
  split
  · next h =>
      subst h
      rfl
  · next h => rw [splitOn_poolValue hds h, memberIdIn_map_text hds]

end Items

section Runs
variable {env : Env} {info : LoadBalancerInfo} {nb₀ nb₁ nb : Nb} {h : History} {ρ : Roster}
  {operatingStatus : Str} {taken : List Str} {x : Str} {ds : List MemberData}

theorem run_getExistingPoolMembers (he : Enrolled env h ρ nb) (hx : ρ.get? x = some ds) :
    (getExistingPoolMembers x).run Nb.apply nb = (.ok (poolValue ds), nb) := by
  obtain ⟨p, hp⟩ := he.known x ds hx
  obtain ⟨row, hrow, up, hv⟩ := he.values x ds hx
  have hkey := mem_keys_of_get? hv
  obtain ⟨up', row', value, hfound, hrow', hvalue⟩ | ⟨-, hnone⟩ := he.kept.poolRow hp
  · obtain ⟨rfl, rfl⟩ := he.kept.pool_unique hrow' hrow hp (mem_keys_of_get? hvalue) hkey
    rw [hv, Option.some.injEq] at hvalue
    have hlive := he.kept.table.wellFormed.lb?_of_mem (Nb.mem_lbsNamed.mp hrow).1
    simp only [getExistingPoolMembers, Prog.run_bind, run_findOvnLbByPoolId, hfound, run_readLb,
      live_of_lb? hlive, hv]
    rfl
  · exact absurd hkey (hnone row hrow up)

/-- After every request the search finds the member of an address that was created first and
not deleted since. It raises on a pool that has no members. -/
theorem getPoolMemberId_of_run (hw : nb₀.WellFormed) (hnone : nb₀.lbsNamed info.id = [])
    (ha : info.Addressed env)
    (htaken : ∀ row ∈ nb₀.loadBalancers, ∀ id up, IsUuid id →
      getPoolKey id up ∈ row.externalIds.keys → id ∈ taken)
    (hcreate : (lbCreate env info none).run Nb.apply nb₀ =
      (.ok (lbStatusOf info.id ACTIVE operatingStatus), nb₁))
    (hrun : Relation.ReflTransGen (RosterStep env) (History.new info.id taken, ∅, nb₁)
      (h, ρ, nb))
    (hx : ρ.get? x = some ds) (memAddrPort : Option Str) :
    (getPoolMemberId x memAddrPort).run Nb.apply nb =
      (if ds = [] then .error .indexError
       else .ok ((ds.find? fun d => memAddrPort = some d.addrPort).map MemberData.id), nb) := by
  have he : Enrolled env h ρ nb := Enrolled.keeps_run hrun (.start hw hnone ha htaken hcreate)
  rw [getPoolMemberId, Prog.run_bind, run_getExistingPoolMembers he hx]
  dsimp only
  rw [Prog.run_ofExcept, memberIdIn_poolValue (he.members x ds hx).2]

end Runs

section Example

/-- A pool is created and gets a member. -/
def exampleSearched : History × Roster × Nb :=
  rosterNext exampleEnv (rosterNext exampleEnv
    (History.new exampleLb.id [], ∅, exampleCreated) (.poolCreate exampleDisabledPool))
      (.memberCreate exampleNewMember)

theorem getPoolMemberId_of_run_example :
    (getPoolMemberId (exampleId 'c') (some "10.0.0.7:80".toList)).run Nb.apply
      exampleSearched.2.2 = (.ok (some (exampleId 'e')), exampleSearched.2.2) := by
  have ht : exampleEnv.TellsAddresses := by
    intro id lb hlb v hv
    cases hlb
    cases hv
  have ha : exampleLb.Addressed exampleEnv :=
    ⟨by rintro a ⟨⟩; decide, nofun, nofun, nofun⟩
  have hpool : IsLbRequest exampleEnv (History.new exampleLb.id [])
      (.poolCreate exampleDisabledPool) :=
    ⟨rfl, isUuid_exampleId (by decide), List.not_mem_nil, nofun⟩
  have hmember : IsLbRequest exampleEnv
      ((History.new exampleLb.id []).next (.poolCreate exampleDisabledPool))
      (.memberCreate exampleNewMember) :=
    ⟨_, .tcp, _, rfl, ⟨_, List.mem_singleton_self _, rfl, rfl⟩, ⟨rfl, rfl, rfl, rfl⟩,
      wellFormed_exampleServer, rfl⟩
  have hrun : Relation.ReflTransGen (RosterStep exampleEnv)
      (History.new exampleLb.id [], ∅, exampleCreated) exampleSearched :=
    (Relation.ReflTransGen.single (.request rfl ht hpool)).tail (.request rfl ht hmember)
  have hroster : exampleSearched.2.1.get? (exampleId 'c') = some [exampleServer] := by
    decide +kernel
  have hid : (if [exampleServer] = [] then .error .indexError
      else .ok (([exampleServer].find? fun d => some "10.0.0.7:80".toList = some d.addrPort).map
        MemberData.id) : Except Exc (Option Str)) = .ok (some (exampleId 'e')) := by decide +kernel
  exact (getPoolMemberId_of_run wellFormed_exampleNb rfl ha nofun run_exampleLb hrun hroster
    (some "10.0.0.7:80".toList)).trans (Prod.ext hid rfl)

end Example

end OvnOctavia

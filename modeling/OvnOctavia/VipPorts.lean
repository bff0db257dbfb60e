import OvnOctavia.Environment
import OvnOctavia.Library.Acquire
import OvnOctavia.Library.Text

/-!
The Neutron ports of a load balancer's VIPs. Neutron is any service with a state of its own
that creates, finds and deletes ports; beside it the calls of `delete_port` are counted.
-/

namespace OvnOctavia

/-- What a call to Neutron can raise, with what the exception says. Conflicts and missing
resources are HTTP exceptions too. -/
inductive NeutronExc where
  | conflictException (details : Str)
  | resourceNotFound (details : Str)
  | httpException (details : Str)
  | other (details : Str)
  deriving DecidableEq

def NeutronExc.isHttp : NeutronExc → Bool
  | other _ => false
  | _ => true

structure FixedIpBody where
  subnetId : Option Str
  ipAddress : Option Str
  deriving DecidableEq

structure PortBody where
  name : Str
  networkId : Option Str
  fixedIps : List FixedIpBody
  adminStateUp : Bool
  projectId : Str
  deriving DecidableEq

structure Neutron (σ : Type) where
  /-- `clients.get_neutron_client()`. -/
  client : Except NeutronExc Unit
  createPort : PortBody → Attempt σ NeutronExc Port
  findPort : Option Str → Str → Attempt σ NeutronExc (Option Port)
  deletePort : Str → Attempt σ NeutronExc Unit
  /-- How often a failed search is repeated within its time. -/
  findRetries : Nat

/-- The state of Neutron and the ports `delete_port` was called for. -/
structure Session (σ : Type) where
  neutron : σ
  deleted : List Str

/-- A VIP or an additional VIP as the request describes it. -/
structure VipDict where
  networkId : Option Str
  subnetId : Option Str
  ipAddress : Option Str
  deriving DecidableEq

/-- The arguments of `_create_neutron_port`. -/
structure PortRequest where
  name : Str
  projectId : Str
  netId : Option Str
  subnetId : Option Str
  address : Option Str
  deriving DecidableEq

def PortRequest.body (r : PortRequest) : PortBody :=
  { name := r.name, networkId := r.netId
    fixedIps := [{ subnetId := r.subnetId
                   ipAddress := if r.address = some [] then none else r.address }]
    adminStateUp := true, projectId := r.projectId }

def lbVipPortPrefix : Str := "ovn-lb-vip-".toList
def lbVipAdditPortPrefix : Str := "ovn-lb-vip-additional-".toList

section Ports
variable {σ : Type} (N : Neutron σ)

def neutronCall {α : Type} (p : Attempt σ NeutronExc α) : Attempt (Session σ) NeutronExc α :=
  .zoom Session.neutron (fun n s => { s with neutron := n }) p

def neutronFindPort (netId : Option Str) (name : Str) : Attempt σ NeutronExc (Option Port) :=
  .retry NeutronExc.isHttp (N.findPort netId name) N.findRetries

/-- `_create_neutron_port`: a port that is there already is taken over. -/
def createNeutronPort (r : PortRequest) : Attempt σ NeutronExc Port :=
  tryCatch (N.createPort r.body) fun
    | .conflictException details => do
        match ← neutronFindPort N r.netId r.name with
        | none => throw (.conflictException details)
        | some port => return port
    | e => throw e

def deletePortOnce (portId : Str) : Attempt σ NeutronExc Unit := do
  let _ ← (ExceptT.mk (pure N.client) : Attempt σ NeutronExc Unit)
  tryCatch (N.deletePort portId) fun
    | .resourceNotFound _ => pure ()
    | e => throw e

/-- `delete_port`, with its fifteen attempts. -/
def deleteNeutronPort (portId : Str) : Attempt (Session σ) NeutronExc Unit := do
  modify fun s => { s with deleted := s.deleted ++ [portId] }
  neutronCall (.retry NeutronExc.isHttp (deletePortOnce N portId) 14)

/-- The handler of an exception: the ports at hand are deleted. -/
def deleteLeftovers {α : Type} (vipPort : Option Port) (additional : List Port) (e : NeutronExc) :
    Attempt (Session σ) NeutronExc α := do
  if e.isHttp then
    match vipPort with
    | some port => deleteNeutronPort N port.id
    | none => pure ()
    additional.forM fun port => deleteNeutronPort N port.id
  throw e

def vipRequest (projectId lbId : Str) (vip : VipDict) : PortRequest :=
  { name := lbVipPortPrefix ++ lbId, projectId, netId := vip.networkId, subnetId := vip.subnetId
    address := vip.ipAddress }

/-- The additional VIPs are counted from one. -/
def additionalRequests (projectId lbId : Str) (vips : List VipDict) : List PortRequest :=
  vips.mapIdx fun index vip =>
    { name := lbVipAdditPortPrefix ++ Str.ofNat (index + 1) ++ '-' :: lbId, projectId
      netId := vip.networkId, subnetId := vip.subnetId, address := vip.ipAddress }

def createVipPort (projectId lbId : Str) (vip : VipDict) (additional : List VipDict) :
    Attempt (Session σ) NeutronExc (Port × List Port) := do
  let _ ← (ExceptT.mk (pure N.client) : Attempt (Session σ) NeutronExc Unit)
  match ← (neutronCall (createNeutronPort N (vipRequest projectId lbId vip))).attempt with
  | .error e => deleteLeftovers N none [] e
  | .ok vipPort =>
      match ← neutronCall (.acquire (createNeutronPort N)
          (additionalRequests projectId lbId additional)) with
      | (ports, .ok _) => return (vipPort, ports)
      | (ports, .error e) => deleteLeftovers N (some vipPort) ports e

end Ports

/-- What Neutron makes of the request for a port: it is created, or a conflict is resolved
with the port that is there; otherwise it is refused, or the conflict remains, or the
search for the other port fails. -/
inductive Answers {σ : Type} (N : Neutron σ) (r : PortRequest) :
    σ → Except NeutronExc Port → σ → Prop
  | created {n n' : σ} {port : Port} (h : (N.createPort r.body).exec n = (.ok port, n')) :
      Answers N r n (.ok port) n'
  | adopted {n n' n'' : σ} {details : Str} {port : Port}
      (h : (N.createPort r.body).exec n = (.error (.conflictException details), n'))
      (hf : (neutronFindPort N r.netId r.name).exec n' = (.ok (some port), n'')) :
      Answers N r n (.ok port) n''
  | refused {n n' : σ} {e : NeutronExc} (h : (N.createPort r.body).exec n = (.error e, n'))
      (he : ∀ details, e ≠ .conflictException details) : Answers N r n (.error e) n'
  | conflicting {n n' n'' : σ} {details : Str}
      (h : (N.createPort r.body).exec n = (.error (.conflictException details), n'))
      (hf : (neutronFindPort N r.netId r.name).exec n' = (.ok none, n'')) :
      Answers N r n (.error (.conflictException details)) n''
  | unsearched {n n' n'' : σ} {details : Str} {e : NeutronExc}
      (h : (N.createPort r.body).exec n = (.error (.conflictException details), n'))
      (hf : (neutronFindPort N r.netId r.name).exec n' = (.error e, n'')) :
      Answers N r n (.error e) n''

/-- Each request for a port is met, by a port that is created or taken over. -/
inductive Obtained {σ : Type} (N : Neutron σ) : List PortRequest → σ → List Port → σ → Prop
  | nil (n : σ) : Obtained N [] n [] n
  | cons {r : PortRequest} {rs : List PortRequest} {port : Port} {ports : List Port}
      {n n' n'' : σ} (h : Answers N r n (.ok port) n') (hs : Obtained N rs n' ports n'') :
      Obtained N (r :: rs) n (port :: ports) n''

section Answers
variable {σ : Type} {N : Neutron σ} {r : PortRequest} {rs : List PortRequest} {n n' : σ}
  {out : Except NeutronExc Port}

theorem exec_createNeutronPort_iff :
    (createNeutronPort N r).exec n = (out, n') ↔ Answers N r n out n' := by
  constructor
  · intro h
    rw [createNeutronPort, Attempt.exec_tryCatch] at h
    rcases hcreate : (N.createPort r.body).exec n with ⟨e | port, n₁⟩
    · rw [hcreate] at h
      cases e with
      | conflictException details =>
          dsimp only at h
          rw [Attempt.exec_bind] at h
          rcases hfind : (neutronFindPort N r.netId r.name).exec n₁ with ⟨e | found, n₂⟩
          · rw [hfind] at h
            cases h
            exact .unsearched hcreate hfind
          · rw [hfind] at h
            cases found with
            | none =>
                cases h
                exact .conflicting hcreate hfind
            | some port =>
                cases h
                exact .adopted hcreate hfind
      | resourceNotFound details =>
          cases h
          exact .refused hcreate nofun
      | httpException details =>
          cases h
          exact .refused hcreate nofun
      | other details =>
          cases h
          exact .refused hcreate nofun
    · rw [hcreate] at h
      cases h
      exact .created hcreate
  · intro h
    rw [createNeutronPort, Attempt.exec_tryCatch]
    cases h with
    | created h => rw [h]
    | adopted h hf =>
        rw [h]
        dsimp only
        rw [Attempt.exec_bind, hf]
        rfl
    | refused h he =>
        rw [h]
        dsimp only
        split
        · next details => exact absurd rfl (he details)
        · rfl
    | conflicting h hf =>
        rw [h]
        dsimp only
        rw [Attempt.exec_bind, hf]
        rfl
    | unsearched h hf =>
        rw [h]
        dsimp only
        rw [Attempt.exec_bind, hf]

theorem Obtained.acquired {ports : List Port} (h : Obtained N rs n ports n') :
    Attempt.Acquired (createNeutronPort N) rs n ports n' := by
  induction h with
  | nil n => exact .nil n
  | cons h _ ih => exact .cons (exec_createNeutronPort_iff.mpr h) ih

end Answers

section Deletions
variable {σ : Type} {N : Neutron σ} {s : Session σ} {portId : Str} {e : NeutronExc}

/-- `delete_port` does not raise. -/
def Neutron.Deletes (N : Neutron σ) (portId : Str) : Prop :=
  ∀ s, ((deleteNeutronPort N portId).exec s).1 = .ok ()

theorem exec_deleteNeutronPort (h : N.Deletes portId) (s : Session σ) :
    ∃ s', (deleteNeutronPort N portId).exec s = (.ok (), s') ∧
      s'.deleted = s.deleted ++ [portId] :=
  ⟨_, Prod.ext (h s) rfl, rfl⟩

theorem exec_deletePorts {ports : List Port} (h : ∀ p ∈ ports, N.Deletes p.id) (s : Session σ) :
    ∃ s', (ports.forM fun port => deleteNeutronPort N port.id).exec s = (.ok (), s') ∧
      s'.deleted = s.deleted ++ ports.map Port.id := by
  induction ports generalizing s with
  | nil => exact ⟨s, rfl, by simp⟩
  | cons port ports ih =>
      obtain ⟨s₁, hrun, hdeleted⟩ := exec_deleteNeutronPort (h port (List.mem_cons_self ..)) s
      obtain ⟨s₂, hrest, hdeleted'⟩ := ih (fun p hp => h p (List.mem_cons_of_mem _ hp)) s₁
      refine ⟨s₂, ?_, ?_⟩
      · change (deleteNeutronPort N port.id >>= fun _ =>
          ports.forM fun port => deleteNeutronPort N port.id).exec s = _
        rw [Attempt.exec_bind, hrun]
        exact hrest
      · rw [hdeleted', hdeleted, List.map_cons, List.append_assoc, List.singleton_append]

/-- The ports at hand are deleted once each, and the exception is raised again. -/
theorem exec_deleteLeftovers {α : Type} {vipPort : Option Port} {ports : List Port}
    (he : e.isHttp = true) (h : ∀ p ∈ vipPort.toList ++ ports, N.Deletes p.id) (s : Session σ) :
    ∃ s', (deleteLeftovers N vipPort ports e : Attempt (Session σ) NeutronExc α).exec s =
        (.error e, s') ∧ s'.deleted = s.deleted ++ (vipPort.toList ++ ports).map Port.id := by
  obtain ⟨s', hrun, hdeleted⟩ := exec_deletePorts h s
  refine ⟨s', ?_, hdeleted⟩
  rw [deleteLeftovers, if_pos he]
  cases vipPort with
  | none =>
      change Attempt.exec (ports.forM fun port => deleteNeutronPort N port.id) s = _ at hrun
      rw [Attempt.exec_bind, hrun]
      rfl
  | some port =>
      change Attempt.exec (deleteNeutronPort N port.id >>= fun _ =>
        ports.forM fun port => deleteNeutronPort N port.id) s = _ at hrun
      rw [Attempt.exec_bind] at hrun ⊢
      rcases hfirst : (deleteNeutronPort N port.id).exec s with ⟨e' | _, s₁⟩
      · rw [hfirst] at hrun
        cases hrun
      · rw [hfirst] at hrun
        dsimp only at hrun ⊢
        rw [Attempt.exec_bind, hrun]
        rfl

end Deletions

section Rollback
variable {σ : Type} {N : Neutron σ} {projectId lbId : Str} {vip : VipDict}
  {additional : List VipDict} {s : Session σ}

/-- The requests for the ports of a load balancer, the VIP first. -/
def vipRequests (projectId lbId : Str) (vip : VipDict) (additional : List VipDict) :
    List PortRequest :=
  vipRequest projectId lbId vip :: additionalRequests projectId lbId additional

theorem exec_neutronCall {α : Type} (p : Attempt σ NeutronExc α) (s : Session σ) :
    (neutronCall p).exec s = ((p.exec s.neutron).1, { s with neutron := (p.exec s.neutron).2 }) :=
  rfl

theorem exec_createVipPort (hc : N.client = .ok ()) (s : Session σ) :
    (createVipPort N projectId lbId vip additional).exec s =
      match (createNeutronPort N (vipRequest projectId lbId vip)).exec s.neutron with
      | (.error e, n) =>
          (deleteLeftovers N none [] e : Attempt (Session σ) NeutronExc (Port × List Port)).exec
            { s with neutron := n }
      | (.ok vipPort, n) =>
          match (Attempt.acquire (createNeutronPort N)
              (additionalRequests projectId lbId additional)).exec n with
          | (.ok (ports, .ok _), n') => (.ok (vipPort, ports), { s with neutron := n' })
          | (.ok (ports, .error e), n') =>
              (deleteLeftovers N (some vipPort) ports e).exec { s with neutron := n' }
          | (.error e, n') => (.error e, { s with neutron := n' }) := by
  rw [createVipPort, hc, Attempt.exec_bind]
  change Attempt.exec (Attempt.attempt _ >>= _) s = _
  rw [Attempt.exec_bind, Attempt.exec_attempt, exec_neutronCall]
  rcases (createNeutronPort N (vipRequest projectId lbId vip)).exec s.neutron with ⟨e | port, n⟩
  · rfl
  · dsimp only
    rw [Attempt.exec_bind, exec_neutronCall]
    dsimp only
    rcases (Attempt.acquire (createNeutronPort N)
      (additionalRequests projectId lbId additional)).exec n with ⟨e | ⟨ports, e | _⟩, n'⟩ <;> rfl

/-- No port is left over: with all requests met the ports are returned in order and none is
deleted, and at the first HTTP exception the ports obtained before are deleted, each once and
no others, and the exception is raised. -/
theorem createVipPort_leaves_none (hc : N.client = .ok ()) (s : Session σ) :
    (∀ port ports n, Obtained N (vipRequests projectId lbId vip additional) s.neutron
        (port :: ports) n →
      (createVipPort N projectId lbId vip additional).exec s =
        (.ok (port, ports), { s with neutron := n })) ∧
    ∀ before r after ports n e n', vipRequests projectId lbId vip additional =
        before ++ r :: after → Obtained N before s.neutron ports n →
      Answers N r n (.error e) n' → e.isHttp = true → (∀ p ∈ ports, N.Deletes p.id) →
      ∃ s', (createVipPort N projectId lbId vip additional).exec s = (.error e, s') ∧
        s'.deleted = s.deleted ++ ports.map Port.id := by
  constructor
  · intro port ports n h
    rw [vipRequests] at h
    cases h with
    | cons h hs =>
        rw [exec_createVipPort hc, exec_createNeutronPort_iff.mpr h]
        dsimp only
        rw [Attempt.exec_acquire_of_acquired hs.acquired]
  · intro before r after ports n e n' hrequests hbefore hr he hdeletes
    cases hbefore with
    | nil n =>
        rw [vipRequests, List.nil_append, List.cons.injEq] at hrequests
        obtain ⟨rfl, -⟩ := hrequests
        rw [exec_createVipPort hc, exec_createNeutronPort_iff.mpr hr]
        exact exec_deleteLeftovers he hdeletes _
    | cons h hs =>
        rw [vipRequests, List.cons_append, List.cons.injEq] at hrequests
        obtain ⟨rfl, hrest⟩ := hrequests
        rw [exec_createVipPort hc, exec_createNeutronPort_iff.mpr h, hrest]
        dsimp only
        rw [Attempt.exec_acquire_of_failed hs.acquired (exec_createNeutronPort_iff.mpr hr)]
        exact exec_deleteLeftovers he hdeletes _

end Rollback

section Example

/-- The first port is created, the second is there already and the third is refused. -/
def exampleNeutron : Neutron Nat where
  client := .ok ()
  createPort := fun _ => ExceptT.mk fun
    | 0 => (.ok ⟨"vip".toList, "net".toList, []⟩, 1)
    | 1 => (.error (.conflictException "in use".toList), 2)
    | n => (.error (.httpException "timeout".toList), n)
  findPort := fun _ name => pure (some ⟨name, "net".toList, []⟩)
  deletePort := fun _ => pure ()
  findRetries := 3

def exampleVip : VipDict :=
  { networkId := some "net".toList, subnetId := some "sub".toList, ipAddress := none }

def exampleRequest (name : Str) : PortRequest :=
  { name, projectId := "project".toList, netId := some "net".toList, subnetId := some "sub".toList
    address := none }

def exampleVipPorts : List Port :=
  [⟨"vip".toList, "net".toList, []⟩, ⟨"ovn-lb-vip-additional-1-lb".toList, "net".toList, []⟩]

theorem obtained_exampleNeutron : Obtained exampleNeutron
    [exampleRequest "ovn-lb-vip-lb".toList, exampleRequest "ovn-lb-vip-additional-1-lb".toList] 0
    exampleVipPorts 2 := by
  have hfirst : Answers exampleNeutron (exampleRequest "ovn-lb-vip-lb".toList) 0
      (.ok ⟨"vip".toList, "net".toList, []⟩) 1 := .created rfl
  have hsecond : Answers exampleNeutron (exampleRequest "ovn-lb-vip-additional-1-lb".toList) 1
      (.ok ⟨"ovn-lb-vip-additional-1-lb".toList, "net".toList, []⟩) 2 := .adopted rfl rfl
  exact .cons hfirst (.cons hsecond (.nil 2))

theorem createVipPort_leaves_none_example :
    ∃ s', (createVipPort exampleNeutron "project".toList "lb".toList exampleVip
        [exampleVip, exampleVip, exampleVip]).exec ⟨0, []⟩ =
          (.error (.httpException "timeout".toList), s') ∧
      s'.deleted = ["vip".toList, "ovn-lb-vip-additional-1-lb".toList] := by
  have hrequests : vipRequests "project".toList "lb".toList exampleVip
      [exampleVip, exampleVip, exampleVip] =
        [exampleRequest "ovn-lb-vip-lb".toList,
          exampleRequest "ovn-lb-vip-additional-1-lb".toList] ++
        exampleRequest "ovn-lb-vip-additional-2-lb".toList ::
          [exampleRequest "ovn-lb-vip-additional-3-lb".toList] := by decide
  have hrefused : Answers exampleNeutron (exampleRequest "ovn-lb-vip-additional-2-lb".toList) 2
      (.error (.httpException "timeout".toList)) 2 := .refused rfl nofun
  exact (createVipPort_leaves_none rfl ⟨0, []⟩).2 _ _ _ _ _ _ _ hrequests
    obtained_exampleNeutron hrefused rfl fun p _ s => rfl

end Example

end OvnOctavia

import OvnOctavia.Handler
import OvnOctavia.VipPorts

/-!
The updates of the switch ports of VIPs. Neutron writes the floating IP of a port into its
keys; an update of it becomes one request for each row of the load balancer that the name of
the port tells.
-/

namespace OvnOctavia

def ovnPortNameExtIdKey : Str := "neutron:port_name".toList
def ovnPortFipExtIdKey : Str := "neutron:port_fip".toList

section Names

/-- A place of the pattern: a hexadecimal digit, or a dash. -/
def fitsPlace : Bool → Char → Bool
  | true, c => c.isDigit || ('a' ≤ c && c ≤ 'f') || ('A' ≤ c && c ≤ 'F')
  | false, c => c = '-'

def uuidPattern : List Bool :=
  List.replicate 8 true ++ false :: (List.replicate 4 true ++ false ::
    (List.replicate 4 true ++ false :: (List.replicate 4 true ++ false ::
      List.replicate 12 true)))

/-- The text begins with a match. -/
def matchesAt : List Bool → Str → Bool
  | [], _ => true
  | _ :: _, [] => false
  | b :: pattern, c :: s => fitsPlace b c && matchesAt pattern s

/-- The first match in the text, if any. -/
def getUuid : Str → Str
  | [] => []
  | c :: s =>
      if matchesAt uuidPattern (c :: s) then (c :: s).take uuidPattern.length else getUuid s

/-- The load balancer of the port of the given name, and whether the port is that of an
additional VIP. -/
def lbOfPortName (portName : Str) : Str × Bool :=
  if Str.startsWith lbVipAdditPortPrefix portName then (getUuid portName, true)
  else (portName.drop lbVipPortPrefix.length, false)

end Names

section Events
variable (env : Env)

/-- The requests queued for the rows of a load balancer; a sync handles each at once. -/
def vipPortUpdateHandler (vipLp : LogicalSwitchPort) (fip : Str) (action : FipAction) :
    Nbctl (List FipInfo) := do
  match vipLp.externalIds.get? ovnPortNameExtIdKey with
  | none => throw .attributeError
  | some portName =>
      let (lbId, additionalVip) := lbOfPortName portName
      match ← (findOvnLbs lbId).attempt with
      | .error .rowNotFound => return []
      | .error e => throw e
      | .ok ovnLbs =>
          Prog.ofExcept env.neutronClient
          let queued ← Prog.mapEach (fun lb => do
            let port ← Prog.ofExcept (env.getPort vipLp.name)
            let info : FipInfo :=
              { ovnLb := lb, vipFip := fip, vipRelated := port.fixedIps.map (·.ipAddress)
                additionalVipFip := additionalVip, action }
            if action ≠ .sync then
              return [info]
            else
              handleVipFip env info
              return []) ovnLbs
          return queued.flatten

namespace LogicalSwitchPortUpdateEvent

/-- `old` has the keys the update replaced, if it did. -/
def matchFn (row : LogicalSwitchPort) (old : Option (Dict Str Str)) : Bool :=
  old.isSome &&
    Str.startsWith lbVipPortPrefix ((row.externalIds.get? ovnPortNameExtIdKey).getD [])

/-- The change of the floating IP, with the address the requests are for. When an empty one
is taken away the requests associate none. -/
def action (row : LogicalSwitchPort) (old : Dict Str Str) : Option (Option Str × FipAction) :=
  let fipOld := old.get? ovnPortFipExtIdKey
  let fipNew := row.externalIds.get? ovnPortFipExtIdKey
  if fipOld ≠ fipNew then
    match fipOld, fipNew with
    | some (c :: fip), none => some (some (c :: fip), .disassociate)
    | _, fip => some (fip, .associate)
  else none

/-- The requests queued; those for no address differ in nothing else. -/
def run (row : LogicalSwitchPort) (old : Dict Str Str) : Nbctl (List (Option FipInfo)) :=
  match action row old with
  | some (some fip, action) => List.map some <$> vipPortUpdateHandler env row fip action
  | some (none, action) => List.map (fun _ => none) <$> vipPortUpdateHandler env row [] action
  | none => return []

end LogicalSwitchPortUpdateEvent

/-- The requests an update of a switch port queues; an event that raises queues none. -/
def portRequests (row : LogicalSwitchPort) (old : Dict Str Str) (nb : Nb) :
    List (Option FipInfo) :=
  if LogicalSwitchPortUpdateEvent.matchFn row (some old) then
    match ((LogicalSwitchPortUpdateEvent.run env row old).run Nb.apply nb).1 with
    | .ok queued => queued
    | .error _ => []
  else []

/-- A request to associate no address raises before anything is written: `None` is neither
joined to a text nor a value of a column. -/
def handledFip (nb : Nb) : Option FipInfo → Nb
  | some info => handled env (.handleVipFip info) nb
  | none => nb

/-- The database once the requests of the update are handled, in order. -/
def portUpdated (row : LogicalSwitchPort) (old : Dict Str Str) (nb : Nb) : Nb :=
  (portRequests env row old nb).foldl (handledFip env) nb

end Events

/-- The ports of the VIPs of a load balancer; the additional ones are counted from one. -/
inductive VipPort where
  | vip
  | additional (index : Nat)
  deriving DecidableEq

namespace VipPort

def portName (lbId : Str) : VipPort → Str
  | vip => lbVipPortPrefix ++ lbId
  | additional index => lbVipAdditPortPrefix ++ Str.ofNat index ++ '-' :: lbId

def isAdditional : VipPort → Bool
  | vip => false
  | additional _ => true

/-- The ports a load balancer is given have these names. -/
theorem names_vipRequests (projectId lbId : Str) (vip : VipDict) (additionalVips : List VipDict) :
    (vipRequests projectId lbId vip additionalVips).map PortRequest.name =
      VipPort.vip.portName lbId ::
        (List.range additionalVips.length).map fun i => (additional (i + 1)).portName lbId := by
  rw [vipRequests, List.map_cons]
  refine congrArg _ (List.ext_getElem ?_ fun i h h' => ?_)
  · simp [additionalRequests]
  · simp [additionalRequests, portName]

end VipPort

section Decoding
variable {id : Str}

/-- The ids Octavia hands out. -/
def IsPatterned (id : Str) : Prop := id.length = uuidPattern.length ∧ matchesAt uuidPattern id

instance (id : Str) : Decidable (IsPatterned id) := inferInstanceAs (Decidable (_ ∧ _))

theorem getUuid_of_not {c : Char} {s : Str} (h : matchesAt uuidPattern (c :: s) = false) :
    getUuid (c :: s) = getUuid s := by
  rw [getUuid, h]
  rfl

theorem fits_of_matchesAt {pattern : List Bool} {s : Str} (h : matchesAt pattern s = true)
    {i : Nat} {b : Bool} {c : Char} (hb : pattern[i]? = some b) (hc : s[i]? = some c) :
    fitsPlace b c = true := by
  induction pattern generalizing s i with
  | nil => cases hb
  | cons b' pattern ih =>
      cases s with
      | nil => cases hc
      | cons c' s =>
          rw [matchesAt, Bool.and_eq_true] at h
          cases i with
          | zero =>
              cases hb
              cases hc
              exact h.1
          | succ i => exact ih h.2 hb hc

theorem IsPatterned.getUuid (h : IsPatterned id) : getUuid id = id := by
  cases id with
  | nil => exact absurd h.1 (by decide)
  | cons c s => rw [OvnOctavia.getUuid, if_pos h.2, ← h.1, List.take_length]

/-- No match begins in a number that a dash and an id follow. -/
theorem IsPatterned.getUuid_append (h : IsPatterned id) {digits : Str}
    (hd : ∀ c ∈ digits, c.isDigit = true) : OvnOctavia.getUuid (digits ++ '-' :: id) = id := by
  induction digits with
  | nil =>
      rw [List.nil_append, getUuid_of_not rfl]
      exact h.getUuid
  | cons c digits ih =>
      rw [List.cons_append, getUuid_of_not, ih fun x hx => hd x (List.mem_cons_of_mem _ hx)]
      rw [Bool.eq_false_iff]
      intro hm
      rw [← List.cons_append] at hm
      generalize hds : c :: digits = ds at hm hd
      have hpos : 0 < ds.length := hds ▸ Nat.succ_pos _
      obtain ⟨x, hx⟩ : ∃ x, id[4]? = some x :=
        ⟨_, List.getElem?_eq_getElem (h.1 ▸ (by decide : 4 < uuidPattern.length))⟩
      have hhex : fitsPlace true x = true := fits_of_matchesAt h.2 (i := 4) rfl hx
      have hdash : fitsPlace true '-' = false := rfl
      rcases Nat.lt_trichotomy ds.length 8 with hlt | heq | hgt
      · -- the dash stands where a digit has to
        have hplace : uuidPattern[ds.length]? = some true := by
          rw [uuidPattern, List.getElem?_append_left (by simpa using hlt),
            List.getElem?_replicate, if_pos hlt]
        have hfit := fits_of_matchesAt hm hplace (c := '-') (by simp)
        exact Bool.false_ne_true hfit
      · -- the id has a digit where the second dash has to stand
        have hat : (ds ++ '-' :: id)[13]? = some x := by
          rw [List.getElem?_append_right (by omega), heq]
          exact hx
        have hfit : fitsPlace false x = true := fits_of_matchesAt hm (i := 13) rfl hat
        have hx' : x = '-' := by simpa [fitsPlace] using hfit
        rw [hx', hdash] at hhex
        cases hhex
      · -- the number has a digit where the first dash has to stand
        have hat : (ds ++ '-' :: id)[8]? = some ds[8] := by
          rw [List.getElem?_append_left hgt, List.getElem?_eq_getElem hgt]
        have hfit : fitsPlace false ds[8] = true := fits_of_matchesAt hm (i := 8) rfl hat
        have hx' : ds[8] = '-' := by simpa [fitsPlace] using hfit
        have := hd _ (List.getElem_mem hgt)
        rw [hx'] at this
        cases this

/-- Nor in the prefix of the name. -/
theorem getUuid_additPrefix (s : Str) : getUuid (lbVipAdditPortPrefix ++ s) = getUuid s := rfl

/-- The name of a port tells the load balancer it was made for. -/
theorem lbOfPortName_portName (h : IsPatterned id) (port : VipPort) :
    lbOfPortName (port.portName id) = (id, port.isAdditional) := by
  cases port with
  | vip =>
      have hnot : Str.startsWith lbVipAdditPortPrefix (VipPort.vip.portName id) = false := by
        rw [Bool.eq_false_iff]
        intro hs
        have hp : lbVipPortPrefix ++ "additional-".toList <+: lbVipPortPrefix ++ id :=
          Str.startsWith_iff.mp hs
        obtain ⟨t, rfl⟩ := (List.prefix_append_right_inj _).mp hp
        -- the fourth letter is no digit
        exact Bool.false_ne_true (fits_of_matchesAt h.2 (i := 3) (b := true) rfl rfl)
      rw [lbOfPortName, hnot]
      simp [VipPort.portName, VipPort.isAdditional]
  | additional index =>
      have hstart : Str.startsWith lbVipAdditPortPrefix ((VipPort.additional index).portName id) =
          true := by
        rw [Str.startsWith_iff, VipPort.portName, List.append_assoc]
        exact List.prefix_append _ _
      rw [lbOfPortName, hstart, if_pos rfl, VipPort.portName, List.append_assoc,
        getUuid_additPrefix, h.getUuid_append fun c hc => Str.isDigit_of_mem_ofNat hc]
      rfl

/-- Every port made for a load balancer is traced back to it, the first as that of the VIP and
the others as additional ones. -/
theorem lbOfPortName_vipRequests (h : IsPatterned id) (projectId : Str) (vip : VipDict)
    (additionalVips : List VipDict) :
    (vipRequests projectId id vip additionalVips).map (fun r => lbOfPortName r.name) =
      (id, false) :: List.replicate additionalVips.length (id, true) := by
  have hnames := congrArg (List.map lbOfPortName) (VipPort.names_vipRequests projectId id vip
    additionalVips)
  rw [List.map_map] at hnames
  refine hnames.trans ?_
  rw [List.map_cons, lbOfPortName_portName h, List.map_map]
  refine congrArg _ (List.eq_replicate_iff.mpr ⟨by simp, fun b hb => ?_⟩)
  obtain ⟨i, -, rfl⟩ := List.mem_map.mp hb
  exact lbOfPortName_portName h _

theorem lbOfPortName_vipRequests_example :
    (vipRequests "project".toList "5f0b3a1c-8d2e-4c77-9a41-0e6d2b9c1f38".toList
        ⟨none, none, none⟩ [⟨none, none, none⟩, ⟨none, none, none⟩]).map
        (fun r => lbOfPortName r.name) =
      ("5f0b3a1c-8d2e-4c77-9a41-0e6d2b9c1f38".toList, false) ::
        List.replicate 2 ("5f0b3a1c-8d2e-4c77-9a41-0e6d2b9c1f38".toList, true) :=
  lbOfPortName_vipRequests (by decide) _ _ _

end Decoding

end OvnOctavia

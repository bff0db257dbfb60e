import OvnOctavia.BatchUpdate
import OvnOctavia.Deletion

/-!
The parsers of pool items. A value is read as a whole, and single items are read by the
cascade of a deletion, by the batch update and by the search of a subnet, each with splits of
its own.
-/

namespace OvnOctavia

/-- The parts of a pool item as the search of a subnet unpacks them. -/
def itemParts (memInfo : Str) : Except Exc (Str × Str × Str) :=
  match memInfo.splitOn '_' with
  | [_, memId, memIpPort, memSubnet] => .ok (memId, memIpPort, memSubnet)
  | _ => .error .valueError

section Decoders
variable {ds : List MemberData} {d : MemberData} {poolId : Str}

/-- The member of a request is written as an item of the value. -/
def Reencodes (member : MemberInfo) (d : MemberData) (value : Str) : Prop :=
  getMemberInfo member = .ok d.text ∧ d.text ∈ value.splitOn ','

/-- What the parsers make of a list of members that is written as a pool value. -/
structure DecodersAgree (poolId : Str) (ds : List MemberData) : Prop where
  extract : extractMemberInfo (poolValue ds) = .ok ds
  cascade : ∀ d ∈ ds, ∃ member, cascadeMemberInfo poolId d.text = .ok member ∧
    Reencodes member d (poolValue ds)
  batch : ∀ d ∈ ds, ∃ member dvr, Driver.batchDelete poolId d.text =
    .ok [.memberDelete member, .handleMemberDvr dvr false] ∧ Reencodes member d (poolValue ds)
  inSubnet : ∀ d ∈ ds, ∃ memId memIpPort, itemParts d.text = .ok (memId, memIpPort, d.subnet) ∧
    lbExtIdsMemberPrefix ++ memId ++ '_' :: (memIpPort ++ '_' :: d.subnet) = d.text

/-- The item of a member is among those of the value. -/
theorem mem_items (hds : ∀ d ∈ ds, d.Plain) (hd : d ∈ ds) :
    d.text ∈ (poolValue ds).splitOn ',' := by
  rw [splitOn_poolValue_of_plain hds (List.ne_nil_of_mem hd)]
  exact List.mem_map_of_mem hd

theorem addressPort_of_memberText {id ip ip' port port' subnet : Str}
    (h : memberText id ip port subnet = memberText id ip' port' subnet) :
    addressPort ip port = addressPort ip' port' := by
  have hrest := List.append_cancel_left h
  rw [List.cons.injEq] at hrest
  have hjoined : addressPort ip port ++ '_' :: subnet = addressPort ip' port' ++ '_' :: subnet := by
    simpa only [addressPort, List.append_assoc, List.cons_append] using hrest.2
  exact List.append_cancel_right hjoined

/-- The cascade cuts the address at its first colon. -/
theorem cascadeMemberInfo_iff (hd : d.Plain) :
    (∃ member, cascadeMemberInfo poolId d.text = .ok member ∧ getMemberInfo member = .ok d.text) ↔
      ':' ∉ d.ip := by
  have hport : ':' ∉ d.port := hd.notMem_port rfl
  have hsplit : (d.ip ++ ':' :: d.port).splitOn ':' = d.ip.splitOn ':' ++ [d.port] := by
    rw [List.splitOn_append_cons_self, List.splitOn_eq_singleton hport]
  have hcut : ∀ ip port rest, (d.ip ++ ':' :: d.port).splitOn ':' = ip :: port :: rest →
      cascadeMemberInfo poolId d.text =
        .ok { id := d.id, address := some ip, protocolPort := some port
              poolId := some poolId, subnetId := some d.subnet } := by
    intro ip port rest hparts
    simp only [cascadeMemberInfo, hd.splitOn_text, hparts]
  constructor
  · rintro ⟨member, hmember, htext⟩
    obtain ⟨ip, parts, hip⟩ := List.exists_cons_of_ne_nil (List.splitOn_ne_nil ':' d.ip)
    obtain ⟨port, rest, hparts⟩ : ∃ port rest, parts ++ [d.port] = port :: rest :=
      List.exists_cons_of_ne_nil (List.append_ne_nil_of_right_ne_nil _ (List.cons_ne_nil d.port []))
    have hall : (d.ip ++ ':' :: d.port).splitOn ':' = ip :: port :: rest := by
      rw [hsplit, hip, List.cons_append, hparts]
    have hnone : ':' ∉ port :=
      Str.notMem_of_mem_splitOn (hall ▸ List.mem_cons_of_mem _ (List.mem_cons_self ..))
    rw [hcut ip port rest hall] at hmember
    cases hmember
    have hsame := addressPort_of_memberText (Except.ok.inj htext)
    obtain ⟨hipEq, -⟩ := addressPort_inj hnone hport hsame
    exact hipEq ▸ Str.notMem_of_mem_splitOn (hip ▸ List.mem_cons_self ..)
  · intro hip
    rw [List.splitOn_eq_singleton hip] at hsplit
    exact ⟨_, hcut d.ip d.port [] hsplit, rfl⟩

/-- The parsers agree exactly on members whose addresses are without colons. -/
theorem decodersAgree_iff (hds : ∀ d ∈ ds, d.Plain) :
    DecodersAgree poolId ds ↔ ∀ d ∈ ds, ':' ∉ d.ip := by
  constructor
  · intro h d hd
    obtain ⟨member, hmember, htext, -⟩ := h.cascade d hd
    exact (cascadeMemberInfo_iff (hds d hd)).mp ⟨member, hmember, htext⟩
  · intro h
    refine ⟨extractMemberInfo_of_plain hds, fun d hd => ?_, fun d hd => ?_, fun d hd => ?_⟩
    · obtain ⟨member, hmember, htext⟩ :=
        (@cascadeMemberInfo_iff d poolId (hds d hd)).mpr (h d hd)
      exact ⟨member, hmember, htext, mem_items hds hd⟩
    · exact ⟨_, _, (hds d hd).batchDelete, rfl, mem_items hds hd⟩
    · refine ⟨d.id, d.ip ++ ':' :: d.port, ?_, ?_⟩
      · rw [itemParts, (hds d hd).splitOn_text]
      · simp only [MemberData.text, memberText, List.append_assoc, List.cons_append]

end Decoders

section Example

/-- A member with an IPv6 address. -/
def exampleV6Server : MemberData := { exampleServer with ip := "fd00::7".toList }

theorem plain_exampleServer : exampleServer.Plain := wellFormed_exampleServer.plain

theorem plain_exampleV6Server : exampleV6Server.Plain :=
  { plain_exampleServer with ip_chars := by decide }

/-- Members of which one has no subnet. -/
def exampleServers : List MemberData :=
  [exampleServer, ⟨"10.0.0.8".toList, "8080".toList, [], exampleId 'f'⟩]

theorem decodersAgree_example : DecodersAgree (exampleId 'c') exampleServers := by
  have hdigits : ∀ c ∈ ['8', '0', '8', '0'], c.isDigit = true := by simp
  have hplain : ∀ d ∈ exampleServers, d.Plain :=
    List.forall_mem_cons.mpr ⟨plain_exampleServer,
      List.forall_mem_singleton.mpr ⟨by decide, by decide, hdigits, by decide⟩⟩
  exact (decodersAgree_iff hplain).mpr (by decide)

/-- The member of the cascade is not the one that is stored. -/
theorem not_decodersAgree_v6 : ¬ DecodersAgree (exampleId 'c') [exampleV6Server] := by
  intro h
  obtain ⟨member, hmember, htext, -⟩ := h.cascade exampleV6Server (List.mem_singleton_self _)
  have hno := (cascadeMemberInfo_iff plain_exampleV6Server).mp ⟨member, hmember, htext⟩
  revert hno
  decide

end Example

end OvnOctavia

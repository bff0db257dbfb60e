import OvnOctavia.Encoding

/-!
The keys of a row do not collide: the fixed keys, the listener keys and the pool
keys of Octavia ids are told apart by the tests of the provider, and the values
of listeners and pools are read back as they were written. Octavia ids have a
fixed length and contain no separator.
-/

namespace OvnOctavia

def uuidChars : List Char := "0123456789abcdef-".toList

def IsUuid (u : Str) : Prop := u.length = 36 ∧ ∀ c ∈ u, c ∈ uuidChars

instance (u : Str) : Decidable (IsUuid u) := inferInstanceAs (Decidable (_ ∧ _))

theorem IsUuid.notMem {u : Str} (h : IsUuid u) {c : Char} (hc : c ∉ uuidChars) : c ∉ u :=
  fun hm => hc (h.2 c hm)

theorem IsUuid.ne_nil {u : Str} (h : IsUuid u) : u ≠ [] := by
  rintro rfl
  exact absurd h.1 (by decide)

/-- A list of ids contains the text of an id that is in it only. -/
theorem IsUuid.contains_dumpsList_iff {u : Str} {l : List Str} (hu : IsUuid u)
    (hl : ∀ x ∈ l, IsUuid x) : Str.contains u (Json.dumpsList l) = true ↔ u ∈ l := by
  rw [Str.contains_iff]
  have hescape : ∀ x, IsUuid x → Json.escape x = x := fun x hx =>
    Json.escape_of_notMem (hx.notMem (by decide)) (hx.notMem (by decide))
  constructor
  · intro hin
    have hmarks : ∀ c ∈ ['[', ']', ',', ' ', '"'], c ∉ u := by
      intro c hc
      refine hu.notMem ?_
      simp only [List.mem_cons, List.not_mem_nil, or_false] at hc
      obtain rfl | rfl | rfl | rfl | rfl := hc <;> decide
    obtain ⟨x, hx, hin⟩ := Json.infix_dumpsList hu.ne_nil hmarks hin
    rw [hescape x (hl x hx)] at hin
    exact hin.eq_of_length (hu.1.trans (hl x hx).1.symm) ▸ hx
  · intro hm
    have hquote : u <:+: Json.quote u := ⟨['"'], ['"'], by simp [Json.quote, hescape u hu]⟩
    exact hquote.trans (Json.item_infix_showSeq '[' ']' Json.quote hm)

/-- The keys of a row that belong to no listener and no pool. -/
def baseKeys : List Str :=
  [lbExtIdsVipKey, lbExtIdsAdditVipKey, lbExtIdsVipPortIdKey, lbExtIdsAdditVipPortIdKey,
    lbExtIdsVipFipKey, lbExtIdsAdditVipFipKey, lbExtIdsLsRefsKey, lbExtIdsLrRefKey,
    lbExtIdsHmsKey, ovnMemberStatusKey, enabledKey]

section Prefixes

theorem hasListenerPrefix_listenerKey (u : Str) (up : Bool) :
    hasListenerPrefix (getListenerKey u up) = true := by
  rw [hasListenerPrefix, getListenerKey, List.append_assoc]
  exact Str.contains_append _ _

theorem hasPoolPrefix_poolKey (u : Str) (up : Bool) : hasPoolPrefix (getPoolKey u up) = true := by
  rw [hasPoolPrefix, getPoolKey, List.append_assoc]
  exact Str.contains_append _ _

theorem notMem_listenerKey {u : Str} (h : IsUuid u) (up : Bool) : 'p' ∉ getListenerKey u up := by
  have hu : 'p' ∉ u := h.notMem (by decide)
  have hl : 'p' ∉ lbExtIdsListenerPrefix := by decide
  have hd : 'p' ∉ disabledResourceSuffix := by decide
  cases up <;> simp [getListenerKey, hu, hl, hd]

theorem notMem_poolKey {u : Str} (h : IsUuid u) (up : Bool) : 'i' ∉ getPoolKey u up := by
  have hu : 'i' ∉ u := h.notMem (by decide)
  have hp : 'i' ∉ lbExtIdsPoolPrefix := by decide
  have hd : 'i' ∉ disabledResourceSuffix := by decide
  cases up <;> simp [getPoolKey, hu, hp, hd]

theorem hasListenerPrefix_poolKey {u : Str} (h : IsUuid u) (up : Bool) :
    hasListenerPrefix (getPoolKey u up) = false :=
  Str.contains_eq_false_of_notMem (c := 'i') (by decide) (notMem_poolKey h up)

theorem hasPoolPrefix_listenerKey {u : Str} (h : IsUuid u) (up : Bool) :
    hasPoolPrefix (getListenerKey u up) = false :=
  Str.contains_eq_false_of_notMem (c := 'p') (by decide) (notMem_listenerKey h up)

theorem hasListenerPrefix_base {k : Str} (h : k ∈ baseKeys) : hasListenerPrefix k = false := by
  revert k; decide

theorem hasPoolPrefix_base {k : Str} (h : k ∈ baseKeys) : hasPoolPrefix k = false := by
  revert k; decide

theorem startsWith_listenerKey (u : Str) (up : Bool) :
    Str.startsWith lbExtIdsListenerPrefix (getListenerKey u up) = true := by
  rw [getListenerKey, List.append_assoc]
  exact Str.startsWith_append _ _

theorem startsWith_poolKey (u : Str) (up : Bool) :
    Str.startsWith lbExtIdsPoolPrefix (getPoolKey u up) = true := by
  rw [getPoolKey, List.append_assoc]
  exact Str.startsWith_append _ _

theorem startsWith_listener_poolKey (u : Str) (up : Bool) :
    Str.startsWith lbExtIdsListenerPrefix (getPoolKey u up) = false := rfl

theorem startsWith_listener_base {k : Str} (h : k ∈ baseKeys) :
    Str.startsWith lbExtIdsListenerPrefix k = false := by
  revert k; decide

theorem startsWith_pool_base {k : Str} (h : k ∈ baseKeys) :
    Str.startsWith lbExtIdsPoolPrefix k = false := by
  revert k; decide

end Prefixes

section Injectivity

private theorem append_suffix_inj {u v : Str} (hu : IsUuid u) (hv : IsUuid v) {s t : Str}
    (h : u ++ s = v ++ t) : u = v ∧ s = t :=
  List.append_inj h (hu.1.trans hv.1.symm)

theorem getListenerKey_inj {u v : Str} (hu : IsUuid u) (hv : IsUuid v) {a b : Bool}
    (h : getListenerKey u a = getListenerKey v b) : u = v ∧ a = b := by
  simp only [getListenerKey, List.append_assoc, List.append_cancel_left_eq] at h
  obtain ⟨huv, hs⟩ := append_suffix_inj hu hv h
  refine ⟨huv, ?_⟩
  cases a <;> cases b <;> simp at hs ⊢

theorem getPoolKey_inj {u v : Str} (hu : IsUuid u) (hv : IsUuid v) {a b : Bool}
    (h : getPoolKey u a = getPoolKey v b) : u = v ∧ a = b := by
  simp only [getPoolKey, List.append_assoc, List.append_cancel_left_eq] at h
  obtain ⟨huv, hs⟩ := append_suffix_inj hu hv h
  refine ⟨huv, ?_⟩
  cases a <;> cases b <;> simp at hs ⊢

theorem listenerKey_ne_poolKey (u v : Str) (a b : Bool) : getListenerKey u a ≠ getPoolKey v b := by
  intro h
  have := startsWith_listenerKey u a
  rw [h, startsWith_listener_poolKey] at this
  cases this

theorem listenerKey_notMem_base (u : Str) (up : Bool) : getListenerKey u up ∉ baseKeys := by
  intro h
  have := startsWith_listenerKey u up
  rw [startsWith_listener_base h] at this
  cases this

theorem poolKey_notMem_base (u : Str) (up : Bool) : getPoolKey u up ∉ baseKeys := by
  intro h
  have := startsWith_poolKey u up
  rw [startsWith_pool_base h] at this
  cases this

theorem getPoolKey_true_ne_false (u : Str) : getPoolKey u true ≠ getPoolKey u false := by
  simp [getPoolKey]

theorem getListenerKey_true_ne_false (u : Str) :
    getListenerKey u true ≠ getListenerKey u false := by
  simp [getListenerKey]

end Injectivity

section Disabled

theorem colon_notMem_listenerPrefix {u : Str} (h : IsUuid u) :
    ':' ∉ lbExtIdsListenerPrefix ++ u := by
  have hu : ':' ∉ u := h.notMem (by decide)
  have hl : ':' ∉ lbExtIdsListenerPrefix := by decide
  simp only [List.mem_append, hu, hl, or_self, not_false_iff]

theorem isListenerDisabled_listenerKey {u : Str} (h : IsUuid u) (up : Bool) :
    isListenerDisabled (getListenerKey u up) = !up := by
  have hc := colon_notMem_listenerPrefix h
  cases up with
  | true =>
      have : (getListenerKey u true).splitOn ':' = [lbExtIdsListenerPrefix ++ u] := by
        simpa [getListenerKey] using List.splitOn_eq_singleton hc
      simp [isListenerDisabled, this]
  | false =>
      have hs : getListenerKey u false =
          (lbExtIdsListenerPrefix ++ u) ++ ':' :: disabledResourceSuffix := rfl
      have : (getListenerKey u false).splitOn ':' =
          [lbExtIdsListenerPrefix ++ u, disabledResourceSuffix] := by
        rw [hs, List.splitOn_append_cons_self_of_not_mem hc]
        rfl
      simp [isListenerDisabled, this]

end Disabled

section Values

theorem colon_notMem_ofNat (n : Nat) : ':' ∉ Str.ofNat n := Str.notMem_ofNat (by decide) n

theorem splitOn_listenerValue (n : Nat) (t : Str) :
    (makeListenerKeyValue n t).splitOn ':' = Str.ofNat n :: t.splitOn ':' := by
  rw [makeListenerKeyValue, List.splitOn_append_cons_self_of_not_mem (colon_notMem_ofNat n)]

theorem extractListenerKeyValue_make {n : Nat} {t : Str} (h : ':' ∉ t) :
    extractListenerKeyValue (makeListenerKeyValue n t) = some (Str.ofNat n, t) := by
  rw [extractListenerKeyValue, splitOn_listenerValue, List.splitOn_eq_singleton h]

theorem makeListenerKeyValue_inj {n m : Nat} {t s : Str}
    (h : makeListenerKeyValue n t = makeListenerKeyValue m s) : n = m ∧ t = s := by
  have hparts := congrArg (List.splitOn ':') h
  rw [splitOn_listenerValue, splitOn_listenerValue, List.cons.injEq] at hparts
  refine ⟨Str.ofNat_inj hparts.1, ?_⟩
  rw [← Str.join_splitOn ':' t, hparts.2, Str.join_splitOn]

/-- A second colon makes a listener value unreadable. -/
theorem extractListenerKeyValue_of_colon {n : Nat} {t : Str} (h : ':' ∈ t) :
    extractListenerKeyValue (makeListenerKeyValue n t) = none := by
  obtain ⟨a, b, rfl, ha⟩ := List.eq_append_cons_of_mem h
  rw [extractListenerKeyValue, splitOn_listenerValue,
    List.splitOn_append_cons_self_of_not_mem ha]
  cases hb : b.splitOn ':' with
  | nil => exact absurd hb (List.splitOnP_ne_nil _ _)
  | cons c cs => rfl

theorem headD_splitOn_listenerValue (n : Nat) (t : Str) :
    ((makeListenerKeyValue n t).splitOn ':').headD [] = Str.ofNat n := by
  rw [splitOn_listenerValue]; rfl

theorem makeListenerKeyValue_append (n : Nat) (t s : Str) :
    makeListenerKeyValue n t ++ s = makeListenerKeyValue n (t ++ s) := by
  simp [makeListenerKeyValue]

private theorem poolKey_cons (x : Str) (b : Bool) : getPoolKey x b =
    'p' :: ("ool_".toList ++ (x ++ if b then [] else ':' :: disabledResourceSuffix)) := by
  simp [getPoolKey, lbExtIdsPoolPrefix]

/-- Only the pool's own key occurs in the value of a listener that names a pool:
there is one `p` in such a value. -/
theorem poolKey_infix_value {x y : Str} (hx : IsUuid x) (hy : IsUuid y) {n : Nat} {b : Bool}
    (h : getPoolKey x b <:+: makeListenerKeyValue n (getPoolKey y true)) : x = y := by
  have hn : 'p' ∉ Str.ofNat n ++ [':'] := by
    simpa using Str.notMem_ofNat (by decide : 'p'.isDigit = false) n
  have hy' : 'p' ∉ "ool_".toList ++ (y ++ []) := by
    simp [hy.notMem (by decide : 'p' ∉ uuidChars)]
  obtain ⟨a, s, h⟩ := h
  have h' : (Str.ofNat n ++ [':']) ++ 'p' :: ("ool_".toList ++ (y ++ [])) =
      a ++ 'p' :: ("ool_".toList ++ (x ++ (if b then [] else ':' :: disabledResourceSuffix)) ++
        s) := by
    rw [makeListenerKeyValue, poolKey_cons, poolKey_cons] at h
    simpa using h.symm
  obtain ⟨-, -, hr⟩ := (List.append_cons_inj_of_notMem hn hy').mp h'
  rw [List.append_assoc, List.append_cancel_left_eq, List.append_assoc] at hr
  exact ((List.append_inj hr (hy.1.trans hx.1.symm)).1).symm

end Values

section Members

private theorem memberText_eq (id ip port subnet : Str) : memberText id ip port subnet =
    "member".toList ++ '_' :: (id ++ '_' :: ((ip ++ ':' :: port) ++ '_' :: subnet)) := by
  have hp : lbExtIdsMemberPrefix = "member".toList ++ ['_'] := by decide
  rw [memberText, hp]
  simp only [List.append_assoc, List.cons_append, List.nil_append]

theorem splitOn_memberText {id ip port subnet : Str} (hid : '_' ∉ id) (hip : '_' ∉ ip)
    (hport : '_' ∉ port) (hsubnet : '_' ∉ subnet) :
    (memberText id ip port subnet).splitOn '_' =
      ["member".toList, id, ip ++ ':' :: port, subnet] := by
  have hm : '_' ∉ "member".toList := by decide
  have hip' : '_' ∉ ip ++ ':' :: port := by simp [hip, hport]
  rw [memberText_eq, List.splitOn_append_cons_self_of_not_mem hm,
    List.splitOn_append_cons_self_of_not_mem hid,
    List.splitOn_append_cons_self_of_not_mem hip', List.splitOn_eq_singleton hsubnet]

/-- The parts of a stored member are read back. -/
theorem extractMember_memberText {id ip port subnet : Str} (hid : '_' ∉ id) (hip : '_' ∉ ip)
    (hport : '_' ∉ port) (hport' : ':' ∉ port) (hsubnet : '_' ∉ subnet) :
    extractMember (memberText id ip port subnet) = .ok ⟨ip, port, subnet, id⟩ := by
  simp only [extractMember, splitOn_memberText hid hip hport hsubnet,
    Str.rsplit_append ip port hport']

theorem memberIdOf_memberText {id ip port subnet : Str} (hid : '_' ∉ id) :
    memberIdOf (memberText id ip port subnet) = .ok id := by
  have hm : '_' ∉ "member".toList := by decide
  rw [memberIdOf, memberText_eq, List.splitOn_append_cons_self_of_not_mem hm,
    List.splitOn_append_cons_self_of_not_mem hid]

theorem memberText_ne_nil (id ip port subnet : Str) : memberText id ip port subnet ≠ [] := by
  simp [memberText]

theorem comma_notMem_memberText {id ip port subnet : Str} (hid : ',' ∉ id) (hip : ',' ∉ ip)
    (hport : ',' ∉ port) (hsubnet : ',' ∉ subnet) : ',' ∉ memberText id ip port subnet := by
  have hm : ',' ∉ lbExtIdsMemberPrefix := by decide
  simp [memberText, hm, hid, hip, hport, hsubnet]

end Members

section Names

theorem ovnName_of_isUuid {id : Str} (h : IsUuid id) : ovnName id = "neutron-".toList ++ id := by
  have hn : Str.startsWith "neutron-".toList id = false := by
    rw [Bool.eq_false_iff]
    intro hp
    have hmem : 'n' ∈ id := (Str.startsWith_iff.mp hp).subset (by decide)
    exact h.notMem (by decide) hmem
  rw [ovnName, hn]
  rfl

theorem ovnUuid_ovnName {id : Str} (h : IsUuid id) : ovnUuid (ovnName id) = id := by
  have hn : ¬ "neutron-".toList <:+: id := fun hi =>
    h.notMem (c := 'n') (by decide) (hi.subset (by decide))
  have hcons := Str.replace_cons_append 'n' "eutron-".toList [] id
  rw [ovnName_of_isUuid h, ovnUuid]
  exact hcons.trans (Str.replace_of_not_infix hn)

theorem escape_ovnName {id : Str} (h : IsUuid id) : Json.escape (ovnName id) = ovnName id := by
  have hq : '"' ∉ id := h.notMem (by decide)
  have hb : '\\' ∉ id := h.notMem (by decide)
  rw [ovnName_of_isUuid h]
  exact Json.escape_of_notMem (by simpa using hq) (by simpa using hb)

end Names

end OvnOctavia

import Mathlib.Data.List.TakeWhile
import OvnOctavia.MappingEntries

/-!
The maintenance task that puts the brackets of IPv6 addresses into the mappings of earlier
releases. It reads a table up to the first key that is no bare IPv6 address and then
writes what it has read in the place of the whole table.
-/

namespace OvnOctavia

section Task
variable (env : Env)

/-- The loop over the entries of a table. -/
def formattedMappings (mappings : Dict Str Str) : List (Str × Str) → Except Exc (Dict Str Str)
  | [] => .ok mappings
  | (k, v) :: items =>
      match env.ipVersion k with
      -- an address of the other version, or brackets that are already there
      | some .v4 | none => .ok mappings
      | some .v6 =>
          match Str.after [':'] v with
          | none => .error .valueError
          | some srcIp => formattedMappings (mappings.set (bracket k)
              (addressPort (Str.before [':'] v) (bracket srcIp))) items

def formatRowMappings (lb : LoadBalancer) : Nbctl Unit := do
  let row ← readLb lb
  let mappings ← Prog.ofExcept (formattedMappings env ∅ row.ipPortMappings.items)
  if mappings.items ≠ [] then
    Prog.transaction [.lbUpdate lb.uuid .clearIpPortMappings]
    Prog.transaction (mappings.items.map fun b => .lbUpdate lb.uuid (.setIpPortMapping b.1 b.2))

/-- The task; it ends with `NeverAgain`, which is its return here. -/
def formatIpPortMappingsIpv6 : Nbctl Unit := do
  let nb ← Prog.get
  let ovnLbs := nb.loadBalancers.filter fun lb => lb.ipPortMappings.items ≠ []
  Prog.each (formatRowMappings env) ovnLbs

/-- An entry with the brackets of an IPv6 address, as the command for a mapping writes it;
the others are as they should be. -/
def migrated (b : Str × Str) : Str × Str :=
  if env.ipVersion b.1 = some .v6 then
    (mappingKey env b.1,
      mappingText env b.1 (Str.before [':'] b.2) ((Str.after [':'] b.2).getD []))
  else b

/-- The entries of a table that the loop comes to. -/
def reached (t : Dict Str Str) : List (Str × Str) :=
  t.items.takeWhile fun b => env.ipVersion b.1 = some .v6

/-- The table that the task leaves. -/
def formatted (t : Dict Str Str) : Dict Str Str :=
  if reached env t = [] then t else .ofList ((reached env t).map (migrated env))

def LoadBalancer.format (lb : LoadBalancer) : LoadBalancer :=
  { lb with ipPortMappings := formatted env lb.ipPortMappings }

def Nb.format (nb : Nb) : Nb :=
  { nb with loadBalancers := nb.loadBalancers.map (LoadBalancer.format env) }

/-- Every entry has a port and a source. -/
def Nb.MappingsSourced (nb : Nb) : Prop :=
  ∀ lb ∈ nb.loadBalancers, ∀ b ∈ lb.ipPortMappings.items, ':' ∈ b.2

end Task

section Tables
variable {env : Env} {t acc : Dict Str Str} {l : List (Str × Str)} {b : Str × Str}

theorem after_isSome {v : Str} (h : ':' ∈ v) : ∃ srcIp, Str.after [':'] v = some srcIp := by
  obtain ⟨a, s, rfl, ha⟩ := List.eq_append_cons_of_mem h
  exact ⟨s, Str.after_append_cons ha s⟩

theorem migrated_of_v6 {k v srcIp : Str} (hk : env.ipVersion k = some .v6)
    (hv : Str.after [':'] v = some srcIp) :
    migrated env (k, v) = (bracket k, addressPort (Str.before [':'] v) (bracket srcIp)) := by
  simp only [migrated, mappingKey, mappingText, hk, hv, if_true, Option.getD_some]

theorem formattedMappings_eq (hl : ∀ b ∈ l, ':' ∈ b.2) : formattedMappings env acc l =
    .ok (((l.takeWhile fun b => env.ipVersion b.1 = some .v6).map (migrated env)).foldl
      (fun d b => d.set b.1 b.2) acc) := by
  induction l generalizing acc with
  | nil => rfl
  | cons b l ih =>
      obtain ⟨k, v⟩ := b
      obtain ⟨srcIp, hv⟩ := after_isSome (hl (k, v) (List.mem_cons_self ..))
      have hrest := @ih (acc.set (bracket k) (addressPort (Str.before [':'] v) (bracket srcIp)))
        fun b hb => hl b (List.mem_cons_of_mem _ hb)
      rw [formattedMappings]
      cases hk : env.ipVersion k with
      | none =>
          rw [List.takeWhile_cons_of_neg (by simp [hk])]
          rfl
      | some version =>
          cases version with
          | v4 =>
              rw [List.takeWhile_cons_of_neg (by simp [hk])]
              rfl
          | v6 =>
              rw [List.takeWhile_cons_of_pos (by simp [hk]), List.map_cons, List.foldl_cons,
                migrated_of_v6 hk hv, ← hrest]
              simp only [hv]

theorem bracket_inj {a b : Str} (h : bracket a = bracket b) : a = b := by
  rw [bracket, bracket, List.cons.injEq] at h
  exact List.append_cancel_right h.2

/-- Different keys stay different. -/
theorem nodup_migrated (t : Dict Str Str) :
    (((reached env t).map (migrated env)).map Prod.fst).Nodup := by
  have hkeys : ((reached env t).map (migrated env)).map Prod.fst =
      ((reached env t).map Prod.fst).map bracket := by
    rw [List.map_map, List.map_map]
    refine List.map_congr_left fun b hb => ?_
    have hv : env.ipVersion b.1 = some .v6 := by simpa using List.mem_takeWhile_imp hb
    simp only [Function.comp_apply, migrated, hv, if_true, mappingKey]
  rw [hkeys]
  have hsub : ((reached env t).map Prod.fst).Sublist (t.items.map Prod.fst) :=
    (List.takeWhile_sublist _).map _
  exact (t.nodup.sublist hsub).map fun a b => bracket_inj

theorem items_formatted (t : Dict Str Str) (h : reached env t ≠ []) :
    (formatted env t).items = (reached env t).map (migrated env) := by
  rw [formatted, if_neg h]
  exact congrArg Dict.items (Dict.ofList_items ⟨_, nodup_migrated t⟩)

theorem formatted_of_nil (t : Dict Str Str) (h : reached env t = []) :
    formatted env t = t := if_pos h

/-- After the task the loop stops at the first entry. -/
theorem reached_formatted (hb : ∀ a, env.ipVersion (bracket a) = none) (t : Dict Str Str) :
    reached env (formatted env t) = [] := by
  by_cases h : reached env t = []
  · rw [formatted_of_nil t h, h]
  · rw [reached, items_formatted t h]
    cases hr : reached env t with
    | nil => exact absurd hr h
    | cons b l =>
        have hv : env.ipVersion b.1 = some .v6 := by
          have hm : b ∈ reached env t := hr ▸ List.mem_cons_self ..
          simpa using List.mem_takeWhile_imp hm
        rw [List.map_cons, List.takeWhile_cons_of_neg]
        simp only [migrated, hv, if_true, mappingKey, hb, reduceCtorEq, decide_false,
          Bool.false_eq_true, not_false_eq_true]

theorem LoadBalancer.format_format (hb : ∀ a, env.ipVersion (bracket a) = none)
    (lb : LoadBalancer) :
    (lb.format env).format env = lb.format env :=
  congrArg (fun m => { lb with ipPortMappings := m })
    (formatted_of_nil _ (reached_formatted hb lb.ipPortMappings))

theorem reached_eq_items_iff : reached env t = t.items ↔
    ∀ k ∈ t.keys, env.ipVersion k = some .v6 := by
  rw [reached, List.takeWhile_eq_self_iff]
  constructor
  · intro h k hk
    obtain ⟨v, hm⟩ := (Dict.mem_keys_iff t k).mp hk
    simpa using h (k, v) hm
  · intro h b hm
    simpa using h b.1 ((Dict.mem_keys_iff t b.1).mpr ⟨b.2, hm⟩)

theorem reached_eq_nil (h : ∀ k ∈ t.keys, env.ipVersion k ≠ some .v6) : reached env t = [] := by
  rw [reached]
  cases hl : t.items with
  | nil => rfl
  | cons b l =>
      have hb : b.1 ∈ t.keys := (Dict.mem_keys_iff t b.1).mpr ⟨b.2, hl ▸ List.mem_cons_self ..⟩
      rw [List.takeWhile_cons_of_neg (by simpa using h b.1 hb)]

theorem map_migrated_of_none (h : ∀ k ∈ t.keys, env.ipVersion k ≠ some .v6) :
    t.items.map (migrated env) = t.items := by
  conv_rhs => rw [← List.map_id t.items]
  refine List.map_congr_left fun b hm => ?_
  rw [migrated, if_neg (h b.1 ((Dict.mem_keys_iff t b.1).mpr ⟨b.2, hm⟩)), id]

/-- An entry that is as it should be has no bare IPv6 address. -/
theorem ipVersion_migrated (hb : ∀ a, env.ipVersion (bracket a) = none) (b : Str × Str) :
    env.ipVersion (migrated env b).1 ≠ some .v6 := by
  rw [migrated]
  split
  · next hv =>
      rw [mappingKey, if_pos hv, hb]
      rintro ⟨⟩
  · next hv => exact hv

/-- The entries come out as they should exactly if the loop comes to all of them, or if
there is nothing to do. -/
theorem perm_formatted_iff (hb : ∀ a, env.ipVersion (bracket a) = none) (t : Dict Str Str) :
    (formatted env t).items.Perm (t.items.map (migrated env)) ↔
      (∀ k ∈ t.keys, env.ipVersion k = some .v6) ∨ ∀ k ∈ t.keys, env.ipVersion k ≠ some .v6 := by
  by_cases h : reached env t = []
  · rw [formatted_of_nil t h]
    constructor
    · intro hperm
      refine .inr fun k hk hv => ?_
      obtain ⟨v, hm⟩ := (Dict.mem_keys_iff t k).mp hk
      obtain ⟨b, -, hbk⟩ := List.mem_map.mp (hperm.mem_iff.mp hm)
      have hne := ipVersion_migrated hb b
      rw [hbk] at hne
      exact hne hv
    · rintro (hall | hnone)
      · rw [← reached_eq_items_iff.mpr hall, h]
        exact .nil
      · rw [map_migrated_of_none hnone]
  · rw [items_formatted t h]
    constructor
    · intro hperm
      have hlength := hperm.length_eq
      rw [List.length_map, List.length_map] at hlength
      exact .inl (reached_eq_items_iff.mp ((List.takeWhile_sublist _).eq_of_length hlength))
    · rintro (hall | hnone)
      · rw [reached_eq_items_iff.mpr hall]
      · exact absurd (reached_eq_nil hnone) h

end Tables

section Rows
variable {env : Env} {nb : Nb} {lb row : LoadBalancer} {lbs : List LoadBalancer}

theorem foldl_setIpPortMapping (lb : LoadBalancer) (l : List (Str × Str)) :
    (l.map fun b => LbOp.setIpPortMapping b.1 b.2).foldl LbOp.apply lb =
      { lb with ipPortMappings := l.foldl (fun d b => d.set b.1 b.2) lb.ipPortMappings } := by
  induction l generalizing lb with
  | nil => rfl
  | cons b l ih =>
      rw [List.map_cons, List.foldl_cons, ih]
      rfl

/-- A table that is cleared and then written again. -/
theorem run_replaceMappings (hw : nb.WellFormed) (hrow : nb.lb? lb.uuid = some row)
    (hu : row.uuid = lb.uuid) (d : Dict Str Str) :
    (do Prog.transaction [.lbUpdate lb.uuid .clearIpPortMappings]
        Prog.transaction (d.items.map fun b =>
          .lbUpdate lb.uuid (.setIpPortMapping b.1 b.2)) : Nbctl Unit).run Nb.apply nb =
      (.ok (), nb.putLb { row with ipPortMappings := d }) := by
  have hclear : Prog.transact Nb.apply [.lbUpdate lb.uuid .clearIpPortMappings] nb =
      .ok (nb.putLb (LbOp.apply row .clearIpPortMappings)) :=
    Nb.transact_row hw hrow [.clearIpPortMappings] rfl
  obtain ⟨row₁, hrow₁⟩ : ∃ row₁ : LoadBalancer, row₁ = LbOp.apply row .clearIpPortMappings :=
    ⟨_, rfl⟩
  rw [← hrow₁] at hclear
  have hu₁ : row₁.uuid = lb.uuid := by rw [hrow₁, ← hu]; rfl
  have hput : (nb.putLb row₁).lb? lb.uuid = some row₁ :=
    hu₁ ▸ Nb.lb?_putLb row₁ (hu₁.symm ▸ hrow)
  have hwrite := Nb.transact_row (hw.putLb row₁) hput
    (d.items.map fun b => .setIpPortMapping b.1 b.2) List.map_map.symm
  have hrow₂ : (d.items.map fun b => LbOp.setIpPortMapping b.1 b.2).foldl LbOp.apply row₁ =
      { row with ipPortMappings := d } := by
    rw [foldl_setIpPortMapping, hrow₁]
    exact congrArg (fun m => { row with ipPortMappings := m }) (Dict.ofList_items d)
  rw [hrow₂, Nb.putLb_putLb (by rw [hu₁, ← hu])] at hwrite
  rw [Prog.run_bind, Prog.run_transaction, hclear]
  dsimp only
  rw [Prog.run_transaction]
  have hcomp : (fun b : Str × Str => Command.lbUpdate lb.uuid (.setIpPortMapping b.1 b.2)) =
      (Command.lbUpdate lb.uuid) ∘ fun b => .setIpPortMapping b.1 b.2 := rfl
  rw [hcomp, hwrite]

theorem run_formatRowMappings (hw : nb.WellFormed) (hrow : nb.lb? lb.uuid = some row)
    (hu : row.uuid = lb.uuid) (hs : ∀ b ∈ row.ipPortMappings.items, ':' ∈ b.2) :
    (formatRowMappings env lb).run Nb.apply nb = (.ok (), nb.putLb (row.format env)) := by
  have hloop : formattedMappings env ∅ row.ipPortMappings.items =
      .ok (.ofList ((reached env row.ipPortMappings).map (migrated env))) := formattedMappings_eq hs
  simp only [formatRowMappings, Prog.run_bind, run_readLb, live_of_lb? hrow, Prog.run_ofExcept,
    hloop]
  by_cases h : reached env row.ipPortMappings = []
  · have hself : row.format env = row :=
      congrArg (fun m => { row with ipPortMappings := m }) (formatted_of_nil _ h)
    rw [hself, Nb.putLb_self hw (hu ▸ hrow), h]
    rfl
  · have hformatted : formatted env row.ipPortMappings =
        .ofList ((reached env row.ipPortMappings).map (migrated env)) := if_neg h
    have hitems := items_formatted row.ipPortMappings h
    rw [← hformatted, if_pos (by rw [hitems]; simpa using h)]
    exact run_replaceMappings hw hrow hu _

/-- The rows that the task has come to. -/
def Nb.formatRows (env : Env) (nb : Nb) (us : List Nat) : Nb :=
  { nb with loadBalancers := nb.loadBalancers.map fun lb =>
      if lb.uuid ∈ us then lb.format env else lb }

theorem Nb.formatRows_cons (hw : nb.WellFormed) (hrow : nb.lb? lb.uuid = some lb) {us : List Nat}
    (hn : lb.uuid ∉ us) :
    (nb.putLb (lb.format env)).formatRows env us = nb.formatRows env (lb.uuid :: us) := by
  simp only [Nb.putLb, Nb.updateLb, Nb.formatRows, List.map_map]
  congr 1
  refine List.map_congr_left fun x hx => ?_
  simp only [Function.comp_apply]
  by_cases hu : x.uuid = lb.uuid
  · have hxl : x = lb := hw.eq_of_uuid hx (Nb.lb?_eq_some hrow).1 hu
    have hsame : (lb.format env).uuid = lb.uuid := rfl
    rw [if_pos (hu.trans hsame.symm), if_neg (hsame ▸ hn), hxl, if_pos (List.mem_cons_self ..)]
  · have hne : x.uuid ≠ (lb.format env).uuid := hu
    rw [if_neg hne]
    simp only [List.mem_cons, hu, false_or]

theorem sourced_format (hs : ∀ b ∈ lb.ipPortMappings.items, ':' ∈ b.2) :
    ∀ b ∈ (lb.format env).ipPortMappings.items, ':' ∈ b.2 := by
  intro b hb
  by_cases h : reached env lb.ipPortMappings = []
  · have hself : (lb.format env).ipPortMappings = lb.ipPortMappings := formatted_of_nil _ h
    exact hs b (hself ▸ hb)
  · have hitems : (lb.format env).ipPortMappings.items = _ := items_formatted _ h
    rw [hitems] at hb
    obtain ⟨a, ha, rfl⟩ := List.mem_map.mp hb
    have hv : env.ipVersion a.1 = some .v6 := by simpa using List.mem_takeWhile_imp ha
    simp [migrated, hv, mappingText, addressPort]

theorem Nb.MappingsSourced.putLb (hs : nb.MappingsSourced) (hrow : nb.lb? lb.uuid = some lb) :
    (nb.putLb (lb.format env)).MappingsSourced := by
  intro x hx
  rcases (@Nb.mem_putLb nb lb (lb.format env) x hrow).mp hx with rfl | ⟨hx, -⟩
  · exact sourced_format (hs lb (Nb.lb?_eq_some hrow).1)
  · exact hs x hx

theorem run_formatRows (hw : nb.WellFormed) (hs : nb.MappingsSourced)
    (hn : (lbs.map (·.uuid)).Nodup) (hlbs : ∀ lb ∈ lbs, nb.lb? lb.uuid = some lb) :
    (Prog.each (formatRowMappings env) lbs).run Nb.apply nb =
      (.ok (), nb.formatRows env (lbs.map (·.uuid))) := by
  induction lbs generalizing nb with
  | nil =>
      have hid : nb.formatRows env [] = nb := by
        simp only [Nb.formatRows, List.not_mem_nil, if_false, List.map_id']
      exact congrArg (Prod.mk _) hid.symm
  | cons lb lbs ih =>
      rw [List.map_cons, List.nodup_cons] at hn
      have hrow := hlbs lb (List.mem_cons_self ..)
      have hfirst := @run_formatRowMappings env nb lb lb hw hrow rfl
        (hs lb (Nb.lb?_eq_some hrow).1)
      have hrest : ∀ x ∈ lbs, (nb.putLb (lb.format env)).lb? x.uuid = some x := by
        intro x hx
        have hne : x.uuid ≠ (lb.format env).uuid := fun h =>
          hn.1 (List.mem_map.mpr ⟨x, hx, h⟩)
        rw [Nb.lb?_putLb_of_ne nb hne, hlbs x (List.mem_cons_of_mem _ hx)]
      rw [Prog.run_each_ok _ hfirst, ih (hw.putLb _) (hs.putLb hrow) hn.2 hrest,
        Nb.formatRows_cons hw hrow hn.1, List.map_cons]

/-- The task leaves every table as the loop comes to it. -/
theorem run_formatIpPortMappingsIpv6 (hw : nb.WellFormed) (hs : nb.MappingsSourced) :
    (formatIpPortMappingsIpv6 env).run Nb.apply nb =
      (.ok (), nb.format env) := by
  have hrows := @run_formatRows env nb (nb.loadBalancers.filter fun lb =>
    lb.ipPortMappings.items ≠ []) hw hs (hw.nodup.sublist (List.filter_sublist.map _))
    fun lb hlb => hw.lb?_of_mem (List.mem_of_mem_filter hlb)
  simp only [formatIpPortMappingsIpv6, Prog.run_bind, Prog.run_get]
  rw [hrows, Nb.formatRows, Nb.format]
  congr 2
  refine List.map_congr_left fun lb hlb => ?_
  split
  · rfl
  · next hout =>
      have hempty : lb.ipPortMappings.items = [] := by
        by_contra hne
        exact hout (List.mem_map.mpr ⟨lb, List.mem_filter.mpr ⟨hlb, by simpa using hne⟩, rfl⟩)
      have hnil : reached env lb.ipPortMappings = [] := by rw [reached, hempty]; rfl
      exact congrArg (fun m => { lb with ipPortMappings := m }) (formatted_of_nil _ hnil).symm

theorem Nb.lb?_format (hrow : nb.lb? row.uuid = some row) :
    (nb.format env).lb? row.uuid = some (row.format env) := by
  have hp : ((fun lb : LoadBalancer => decide (lb.uuid = row.uuid)) ∘ LoadBalancer.format env) =
      fun lb => decide (lb.uuid = row.uuid) := rfl
  rw [Nb.lb?, Nb.format, List.find?_map, hp]
  exact congrArg (Option.map (LoadBalancer.format env)) hrow

theorem Nb.WellFormed.format (hw : nb.WellFormed) : (nb.format env).WellFormed where
  nodup := by
    have huuid : (nb.format env).loadBalancers.map LoadBalancer.uuid =
        nb.loadBalancers.map LoadBalancer.uuid := List.map_map ..
    rw [huuid]
    exact hw.nodup
  lt_next := by
    intro lb hlb
    obtain ⟨lb₀, hlb₀, rfl⟩ := List.mem_map.mp hlb
    exact hw.lt_next lb₀ hlb₀

theorem Nb.MappingsSourced.format (hs : nb.MappingsSourced) : (nb.format env).MappingsSourced := by
  intro lb hlb
  obtain ⟨lb₀, hlb₀, rfl⟩ := List.mem_map.mp hlb
  exact sourced_format (hs lb₀ hlb₀)

theorem Nb.format_format (hb : ∀ a, env.ipVersion (bracket a) = none) (nb : Nb) :
    (nb.format env).format env = nb.format env := by
  have hcomp : LoadBalancer.format env ∘ LoadBalancer.format env = LoadBalancer.format env :=
    funext fun lb => lb.format_format hb
  rw [Nb.format, Nb.format, List.map_map, hcomp]

/-- What the task leaves of the mappings of a row, and what it does when it runs again. -/
structure Migrates (env : Env) (nb : Nb) (row : LoadBalancer) : Prop where
  entries : ∃ row', ((formatIpPortMappingsIpv6 env).run Nb.apply nb).2.lb? row.uuid = some row' ∧
    row'.ipPortMappings.items.Perm (row.ipPortMappings.items.map (migrated env))
  again : ((formatIpPortMappingsIpv6 env).run Nb.apply
      ((formatIpPortMappingsIpv6 env).run Nb.apply nb).2).2 =
    ((formatIpPortMappingsIpv6 env).run Nb.apply nb).2

/-- The mappings of a row survive exactly if the bare IPv6 addresses among them are all of
them or none. -/
theorem migrates_iff (hb : ∀ a, env.ipVersion (bracket a) = none) (hw : nb.WellFormed)
    (hs : nb.MappingsSourced) (hrow : nb.lb? row.uuid = some row) :
    Migrates env nb row ↔ (∀ k ∈ row.ipPortMappings.keys, env.ipVersion k = some .v6) ∨
      ∀ k ∈ row.ipPortMappings.keys, env.ipVersion k ≠ some .v6 := by
  have hrun := @run_formatIpPortMappingsIpv6 env nb hw hs
  have hlb := @Nb.lb?_format env nb row hrow
  rw [← perm_formatted_iff hb]
  constructor
  · rintro ⟨⟨row', hrow', hperm⟩, -⟩
    rw [hrun, hlb] at hrow'
    cases hrow'
    exact hperm
  · intro hperm
    refine ⟨⟨row.format env, ?_, hperm⟩, ?_⟩
    · rw [hrun, hlb]
    · rw [hrun, run_formatIpPortMappingsIpv6 hw.format hs.format, nb.format_format hb]

end Rows

section Example

/-- The address library takes no brackets. -/
def exampleParser : Env := { exampleEnv with
  ipVersion := fun ip => if '[' ∈ ip then none else exampleEnv.ipVersion ip }

def exampleMappedRow (mappings : List (Str × Str)) : LoadBalancer :=
  { exampleServingRow with ipPortMappings := .ofList mappings }

def exampleMappedNb (mappings : List (Str × Str)) : Nb :=
  { exampleServingNb with loadBalancers := [exampleMappedRow mappings] }

/-- The members of a load balancer, one of each version, in the order of the server. -/
def exampleMixedMappings : List (Str × Str) :=
  [("2001:db8::7".toList, "vm6:2001:db8::3".toList), ("30.0.0.7".toList, "vm4:30.0.0.3".toList)]

def exampleV6Mappings : List (Str × Str) :=
  [("fd00::7".toList, "vm7:fd00::3".toList), ("fd00::8".toList, "vm8:fd00::3".toList)]

/-- The mapping of the IPv4 member is lost. -/
theorem mixed_mappings_lost : ¬ Migrates exampleParser (exampleMappedNb exampleMixedMappings)
    (exampleMappedRow exampleMixedMappings) := by
  rintro ⟨⟨row', hrow', hperm⟩, -⟩
  have hleft : (((formatIpPortMappingsIpv6 exampleParser).run Nb.apply
      (exampleMappedNb exampleMixedMappings)).2.lb? 2).map (·.ipPortMappings.items.length) =
        some 1 := by decide +kernel
  have hlength := hperm.length_eq
  have hu : (exampleMappedRow exampleMixedMappings).uuid = 2 := rfl
  rw [hu] at hrow'
  rw [hrow', Option.map_some, Option.some.injEq, hlength] at hleft
  revert hleft
  decide +kernel

theorem migrates_iff_example : Migrates exampleParser (exampleMappedNb exampleV6Mappings)
    (exampleMappedRow exampleV6Mappings) := by
  have hsourced : (exampleMappedNb exampleV6Mappings).MappingsSourced := by
    intro lb hlb
    rw [List.mem_singleton.mp hlb]
    decide +kernel
  refine (migrates_iff (fun a => ?_) ⟨by decide, by decide⟩ hsourced (by decide +kernel)).mpr
    (.inl (by decide +kernel))
  simp [exampleParser, bracket]

end Example

end OvnOctavia

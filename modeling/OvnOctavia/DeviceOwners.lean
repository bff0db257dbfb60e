import OvnOctavia.Environment
import Mathlib.Data.List.Nodup

/-!
The maintenance of the owner of health monitor ports. An iteration gives every such port of
the old owner the new one; after the first it looks whether Neutron knows the new owner, and
takes the change back if not, to try again at the next iteration. A call that raises ends the
iteration in the middle. Over any iterations no other port is changed, and the task is over
once all of them are.
-/

namespace OvnOctavia

def deviceOwnerDistributed : Str := "network:distributed".toList
def ovnLbHmPortDistributed : Str := "ovn-lb-hm:distributed".toList
def lbHmPortName : Str := "ovn-lb-hm".toList
/-- A port of Neutron, with what the maintenance reads and writes. -/
structure OwnedPort where
  id : Str
  name : Str
  deviceOwner : Str
  deviceId : Str
  deriving DecidableEq

def OwnedPort.isHm (port : OwnedPort) : Bool := Str.startsWith lbHmPortName port.name

/-- A call that writes is done, or raises; what raises may have been done nevertheless. -/
inductive WriteAnswer where
  | done
  | refused (e : Exc)
  | lost (e : Exc)
  deriving DecidableEq

/-- What Neutron and the table of switch ports answer during an iteration. -/
structure NeutronAnswers where
  client : Except Exc Unit
  /-- The listing raises once it has given so many ports. -/
  listing : Option (Nat × Exc)
  /-- `update_port` of an id to an owner. -/
  update : Str → Str → WriteAnswer
  /-- The types of the switch ports of a name, as Neutron keeps them for its ports. -/
  portTypes : List OwnedPort → Str → Except Exc (List Str)

def OwnedPort.write (id deviceOwner deviceId : Str) (port : OwnedPort) : OwnedPort :=
  if port.id = id then { port with deviceOwner, deviceId } else port

section Task
variable (neutron : NeutronAnswers)

end Task

/-- What others do to the ports before an iteration, and what the iteration is answered. -/
structure Round where
  others : List OwnedPort → List OwnedPort
  answers : NeutronAnswers

section Ports
variable {port : OwnedPort}

/-- A port the maintenance is for. -/
def OwnedPort.isOld (port : OwnedPort) : Bool :=
  port.deviceOwner = deviceOwnerDistributed && port.isHm

def OwnedPort.changed (port : OwnedPort) : OwnedPort :=
  if port.isOld then { port with deviceOwner := ovnLbHmPortDistributed, deviceId := port.name }
  else port

/-- What a change that is taken back leaves: the port has lost its device. -/
def OwnedPort.cleared (port : OwnedPort) : OwnedPort :=
  { port with deviceOwner := deviceOwnerDistributed, deviceId := [] }

@[simp] theorem OwnedPort.id_write (id owner device : Str) (port : OwnedPort) :
    (port.write id owner device).id = port.id := by
  rw [write]
  split <;> rfl

theorem OwnedPort.write_of_ne {id : Str} (h : port.id ≠ id) (owner device : Str) :
    port.write id owner device = port := if_neg h

theorem newOwner_ne : ovnLbHmPortDistributed ≠ deviceOwnerDistributed := by
  decide

theorem OwnedPort.isOld_changed (h : port.isOld = true) : port.changed.isOld = false := by
  rw [changed, if_pos h, isOld, decide_eq_false newOwner_ne, Bool.false_and]

theorem OwnedPort.isOld_cleared (h : port.isOld = true) : port.cleared.isOld = true := by
  rw [isOld, Bool.and_eq_true] at h
  rw [isOld, Bool.and_eq_true]
  exact ⟨decide_eq_true rfl, h.2⟩

theorem OwnedPort.changed_cleared (h : port.isOld = true) :
    port.cleared.changed = port.changed := by
  rw [changed, changed, if_pos h, if_pos (isOld_cleared h)]
  rfl

end Ports

section Iteration
variable {neutron : NeutronAnswers} {listed ports : List OwnedPort} {port : OwnedPort}
  {result : Except Exc Bool × List OwnedPort}

/-- What an iteration with the given end leaves of a port. -/
inductive Fate (port : OwnedPort) (end' : Except Exc Bool) : OwnedPort → Prop
  | kept (h : port.isOld = true → end' ≠ .ok true) : Fate port end' port
  | changed (hold : port.isOld = true) (h : end' ≠ .ok false) : Fate port end' port.changed
  | cleared (hold : port.isOld = true) (h : end' ≠ .ok true) : Fate port end' port.cleared

/-- The ports listed are ports of the old owner, each listed once. -/
structure ListedOf (listed ports : List OwnedPort) : Prop where
  distinct : (ports.map OwnedPort.id).Nodup
  once : (listed.map OwnedPort.id).Nodup
  mem : ∀ p ∈ listed, p ∈ ports
  owner : ∀ p ∈ listed, p.deviceOwner = deviceOwnerDistributed

namespace ListedOf

theorem tail (h : ListedOf (port :: listed) ports) : ListedOf listed ports where
  distinct := h.distinct
  once := (List.nodup_cons.mp h.once).2
  mem := fun p hp => h.mem p (List.mem_cons_of_mem _ hp)
  owner := fun p hp => h.owner p (List.mem_cons_of_mem _ hp)

theorem id_ne (h : ListedOf (port :: listed) ports) : ∀ p ∈ listed, p.id ≠ port.id :=
  fun _ hp he => (List.nodup_cons.mp h.once).1 (he ▸ List.mem_map_of_mem hp)

theorem isOld (h : ListedOf (port :: listed) ports) (hm : port.isHm = true) :
    port.isOld = true := by
  rw [OwnedPort.isOld, hm, Bool.and_true]
  exact decide_eq_true (h.owner port List.mem_cons_self)

/-- The rest of the listing, once the first port is written. -/
theorem write (h : ListedOf (port :: listed) ports) (owner device : Str) :
    ListedOf listed (ports.map (.write port.id owner device)) where
  distinct := by
    have hids : (ports.map (.write port.id owner device)).map OwnedPort.id =
        ports.map OwnedPort.id := by
      rw [List.map_map]
      exact List.map_congr_left fun p _ => OwnedPort.id_write ..
    rw [hids]
    exact h.distinct
  once := h.tail.once
  mem := by
    intro p hp
    exact List.mem_map.mpr ⟨p, h.tail.mem p hp, OwnedPort.write_of_ne (h.id_ne p hp) ..⟩
  owner := h.tail.owner

end ListedOf

end Iteration

section Support
variable {neutron : NeutronAnswers} {listed ports : List OwnedPort}

/-- No call raises. -/
structure NeutronAnswers.Flawless (neutron : NeutronAnswers) : Prop where
  client : neutron.client = .ok ()
  listing : neutron.listing = none
  update : ∀ id owner, neutron.update id owner = .done
  portTypes : ∀ ports id, ∃ types, neutron.portTypes ports id = .ok types

namespace NeutronAnswers.Flawless

end NeutronAnswers.Flawless

end Support

section Iterations
variable {ports : List OwnedPort} {port : OwnedPort}

/-- Others leave the port of the id alone, and give no id twice. -/
structure Round.Spares (round : Round) (id : Str) : Prop where
  distinct : ∀ ports, (ports.map OwnedPort.id).Nodup → ((round.others ports).map OwnedPort.id).Nodup
  mem : ∀ ports port, port.id = id → (port ∈ round.others ports ↔ port ∈ ports)

/-- What the task has made of a port, with the iterations so far. -/
structure Progress (rounds : List Round) (ended : Bool) (port port' : OwnedPort) : Prop where
  others : port.isOld = false → port' = port
  finished : port.isOld = true → ended = true → port' = port.changed
  pending : port.isOld = true → ended = false → port' = port ∨ port' = port.cleared ∨
    port' = port.changed ∧ ∃ round ∈ rounds, ¬round.answers.Flawless

namespace Progress
variable {round : Round} {later : List Round} {ended : Bool} {end' : Except Exc Bool}
  {port₁ port' : OwnedPort}

/-- An iteration that leaves the task pending, and the later ones. -/
theorem cons (hfate : Fate port end' port₁) (hover : end' ≠ .ok true)
    (hends : round.answers.Flawless → ∃ last, end' = .ok last)
    (h : Progress later ended port₁ port') : Progress (round :: later) ended port port' := by
  have hmore : (∃ r ∈ later, ¬r.answers.Flawless) →
      ∃ r ∈ round :: later, ¬r.answers.Flawless := by
    rintro ⟨r, hr, hf⟩
    exact ⟨r, List.mem_cons_of_mem _ hr, hf⟩
  cases hfate with
  | kept _ =>
      exact ⟨h.others, h.finished, fun hold hp =>
        (h.pending hold hp).imp_right (Or.imp_right (And.imp_right hmore))⟩
  | changed hold hnot =>
      have hend := h.others (OwnedPort.isOld_changed hold)
      refine ⟨fun hn => absurd (hn.symm.trans hold) Bool.false_ne_true, fun _ _ => hend,
        fun _ _ => .inr (.inr ⟨hend, round, List.mem_cons_self, fun hf => ?_⟩)⟩
      obtain ⟨last, hlast⟩ := hends hf
      cases last with
      | true => exact hover hlast
      | false => exact hnot hlast
  | cleared hold _ =>
      have hold' := OwnedPort.isOld_cleared hold
      have hsame := OwnedPort.changed_cleared hold
      refine ⟨fun hn => absurd (hn.symm.trans hold) Bool.false_ne_true,
        fun _ hp => (h.finished hold' hp).trans hsame, fun _ hp => ?_⟩
      rcases h.pending hold' hp with hp | hp | ⟨hp, hr⟩
      · exact .inr (.inl hp)
      · exact .inr (.inl hp)
      · exact .inr (.inr ⟨hp.trans hsame, hmore hr⟩)

end Progress

end Iterations

section Example

end Example

end OvnOctavia

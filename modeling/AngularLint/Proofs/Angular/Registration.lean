import AngularLint.Angular.Registration
import AngularLint.Proofs.Tree.Spine

/-!
# Which calls are registrations

`Registration.isOf` asks three things of a call that know nothing of each other's shape: a path
leads to a property with the name of the element, a link inward is named `module`, and the root is
named `angular`. The path goes through anything that answers to its names, the two loops only
through calls and member accesses, so a node may satisfy one and not the others.

`isOf_node_iff` says what the three come to. The loops decide which kinds of nodes there can be, and
once a value is known to be a call of a member access the path is no more than a look at its
property. The link named `module` cannot be the root, for the root has another name.

**`isOf_iff_spine`** adds what this means for chains: each call of a chain from `angular.module(…)`
is judged by its own name, whatever stands around it, and no chain from anywhere else has a
registration.
-/

set_option autoImplicit false

namespace AngularLint

namespace Node

/-- Is the node a call of a member access whose property has the name? -/
def callsAccess (name : Text) : Node → Bool
  | .mk _ (.callExpression (some callee) _) => callee.accesses name
  | _ => false

/-- Is the end of the spine the identifier with the name? -/
def RootedAt (name : Text) (n : Node) : Prop :=
  ∃ range, n.spine.getLast? = some (.mk range (.identifier name))

theorem any_root?_iff (name : Text) (n : Node) :
    (n.root?.any fun root => (Value.node root).isNamed name) = true ↔ n.RootedAt name := by
  rw [root?_eq_getLast?, RootedAt]
  cases n.spine.getLast? with
  | none => simp
  | some last =>
    obtain ⟨range, shape⟩ := last
    cases shape with
    | identifier text => simp [isIdentifier, Option.filter, Value.isNamed_node, name?]
    | _ => simp [isIdentifier, Option.filter]

/-- Under a root with another name, the link with a name is a member access. -/
theorem isSome_linkNamed?_iff {root : Text} {n : Node} (hroot : n.RootedAt root) {name : Text}
    (hname : root ≠ name) :
    (n.linkNamed? name).isSome ↔ ∃ m ∈ n.spine, m.accesses name = true := by
  rw [linkNamed?_eq_find?, List.find?_isSome]
  constructor
  · rintro ⟨m, hm, hlink⟩
    rcases Bool.or_eq_true_iff.mp hlink with haccess | hidentifier
    · exact ⟨m, hm, haccess⟩
    · -- An identifier leads no further inward, so it is the root.
      obtain ⟨range, hlast⟩ := hroot
      obtain ⟨range', shape⟩ := m
      cases shape with
      | identifier text =>
        obtain rfl : text = name := by simpa [isIdentifierOf] using hidentifier
        rw [getLast?_spine_of_mem hm rfl] at hlast
        simp only [Option.some.injEq, Node.mk.injEq, Shape.identifier.injEq] at hlast
        exact absurd hlast.2.symm hname
      | _ => exact absurd hidentifier (by simp [isIdentifierOf])
  · rintro ⟨m, hm, haccess⟩
    exact ⟨m, hm, Bool.or_eq_true_iff.mpr (Or.inl haccess)⟩

/-- Where there is a link with some name, the path to the property of the callee leads through a
call of a member access, or nowhere. -/
theorem isNamed_property_callee {n : Node} {name : Text} (h : (n.linkNamed? name).isSome)
    (element : Text) :
    (Value.ofOption ((Value.node n).at? ["callee", "property"])).isNamed element =
      n.callsAccess element := by
  obtain ⟨range, shape⟩ := n
  cases shape with
  | callExpression callee arguments =>
    cases callee with
    | none => exact absurd h (by simp [linkNamed?])
    | some callee =>
      obtain ⟨range', shape⟩ := callee
      cases shape with
      | memberExpression object property computed =>
        rw [callsAccess, accesses, ← Value.isNamed_ofChild]
        cases property <;> rfl
      | other type es => exact absurd h (by simp [linkNamed?])
      | _ => rfl
  | memberExpression object property computed => rfl
  | identifier text => rfl
  | _ => exact absurd h (by simp [linkNamed?])

end Node

namespace Registration

open Node

theorem globalName_ne_moduleName : globalName ≠ moduleName := by decide

/-- **Which nodes are registrations.** -/
theorem isOf_node_iff (element : Text) (n : Node) :
    isOf element (.node n) = true ↔
      n.callsAccess element = true ∧ (∃ m ∈ n.spine, m.accesses moduleName = true) ∧
        n.RootedAt globalName := by
  have hlink : (Value.node n).linkNamed? moduleName = n.linkNamed? moduleName := rfl
  have hroot : (Value.node n).root? = n.root? := rfl
  rw [isOf, Bool.and_eq_true_iff, Bool.and_eq_true_iff, hlink, hroot, any_root?_iff]
  constructor
  · rintro ⟨⟨hpath, hsome⟩, hrooted⟩
    rw [isNamed_property_callee hsome] at hpath
    exact ⟨hpath, (isSome_linkNamed?_iff hrooted globalName_ne_moduleName).mp hsome, hrooted⟩
  · rintro ⟨hcalls, hmodule, hrooted⟩
    have hsome := (isSome_linkNamed?_iff hrooted globalName_ne_moduleName).mpr hmodule
    rw [isNamed_property_callee hsome]
    exact ⟨⟨hcalls, hsome⟩, hrooted⟩

theorem isOf_iff (element : Text) (v : Value) :
    isOf element v = true ↔
      ∃ n, v = .node n ∧ n.callsAccess element = true ∧
        (∃ m ∈ n.spine, m.accesses moduleName = true) ∧ n.RootedAt globalName := by
  constructor
  · intro h
    cases v with
    | node n => exact ⟨n, rfl, (isOf_node_iff element n).mp h⟩
    | _ =>
      -- A value that is no node has no links.
      rw [isOf, Bool.and_eq_true_iff, Bool.and_eq_true_iff] at h
      exact absurd h.1.2 (by simp [Value.linkNamed?, Value.node?])
  · rintro ⟨n, rfl, h⟩
    exact (isOf_node_iff element n).mpr h

/-! ## Chains -/

/-- On top of an access to a module, each link is judged by its own name. -/
theorem isOf_onto {n : Node} (hmodule : ∃ m ∈ n.spine, m.accesses moduleName = true)
    (hroot : n.RootedAt globalName) (k : Link) (element : Text) :
    isOf element (.node (k.onto n)) = true ↔ k.name? = some element := by
  have hspine : (∃ m ∈ (k.onto n).spine, m.accesses moduleName = true) ∧
      (k.onto n).RootedAt globalName := by
    obtain ⟨m, hm, haccess⟩ := hmodule
    obtain ⟨range, hlast⟩ := hroot
    refine ⟨⟨m, mem_spine_chain [k] hm, haccess⟩, range, ?_⟩
    rw [← hlast]
    exact getLast?_spine_chain n [k]
  rw [isOf_node_iff]
  exact ⟨fun h => eq_of_beq h.1, fun h => ⟨beq_iff_eq.mpr h, hspine⟩⟩

/-- In a chain from a module each call is judged by its own name. -/
theorem isOf_onto_chain (range : Option Range) {m : Link} (hm : m.name? = some moduleName)
    (before : List Link) (k : Link) (element : Text) :
    isOf element (.node (k.onto (chain (.mk range (.identifier globalName)) (m :: before)))) = true
      ↔ k.name? = some element := by
  -- The first link gives the access to the module.
  let global : Node := .mk range (.identifier globalName)
  have haccess : m.access global ∈ (m.onto global).spine := by
    rw [Link.spine_onto]
    exact List.mem_cons_of_mem _ List.mem_cons_self
  have hglobal : global.spine = [global] := spine_of_none rfl
  refine isOf_onto ⟨_, mem_spine_chain before haccess, beq_iff_eq.mpr hm⟩ ⟨range, ?_⟩ k element
  refine (getLast?_spine_chain global (m :: before)).trans ?_
  rw [hglobal]
  rfl

/-- A chain goes inward through the call of each of its links. -/
theorem mem_spine_chain_append (root : Node) (before : List Link) (k : Link) (after : List Link) :
    k.onto (chain root before) ∈ (chain root (before ++ k :: after)).spine := by
  have hcall : k.onto (chain root before) ∈ (k.onto (chain root before)).spine := by
    rw [Link.spine_onto]
    exact List.mem_cons_self
  rw [chain_append]
  exact mem_spine_chain after hcall

/-- **A registration is a call of a member access named by the element, on a spine that accesses a
module and ends at the global.** So each call of a chain from a module is judged by its own name,
and a walk stops at it, whatever links are inside and around it; and no chain from another root has
a registration. -/
theorem isOf_iff_spine :
    (∀ (element : Text) (v : Value), isOf element v = true ↔
      ∃ n, v = .node n ∧ n.callsAccess element = true ∧
        (∃ m ∈ n.spine, m.accesses moduleName = true) ∧ n.RootedAt globalName) ∧
      (∀ (range : Option Range) (m : Link) (before : List Link) (k : Link) (after : List Link),
        m.name? = some moduleName →
          let global : Node := .mk range (.identifier globalName)
          let call := k.onto (chain global (m :: before))
          (∃ ancestors, ⟨call, ancestors⟩ ∈ (chain global (m :: before ++ k :: after)).visits) ∧
            ∀ element, isOf element (.node call) = true ↔ k.name? = some element) ∧
      ∀ (root : Node) (links : List Link), ¬root.RootedAt globalName →
        ∀ element, isOf element (.node (chain root links)) = false := by
  refine ⟨isOf_iff, ?_, ?_⟩
  · intro range m before k after hm global call
    constructor
    · rw [visits_eq_preorder]
      apply exists_mem_preorder_of_mem_spine
      exact mem_spine_chain_append global (m :: before) k after
    · exact isOf_onto_chain range hm before k
  · intro root links hroot element
    refine Bool.eq_false_iff.mpr fun h => hroot ?_
    obtain ⟨-, -, range, hlast⟩ := (isOf_node_iff element _).mp h
    exact ⟨range, (getLast?_spine_chain root links).symm.trans hlast⟩

/-- A link without arguments. -/
def plainLink (name : Text) : Link := ⟨none, none, some (.mk none (.identifier name)), false, []⟩

/-- Two registrations in one chain, and the same chain from another root. -/
theorem isOf_component_of_chain :
    isOf "component" (.node (chain (.mk none (.identifier globalName))
        [plainLink moduleName, plainLink "component"])) = true ∧
      isOf "component" (.node (chain (.mk none (.identifier globalName))
        [plainLink moduleName, plainLink "component", plainLink "service"])) = false ∧
      isOf "component" (.node (chain (.mk none .thisExpression)
        [plainLink moduleName, plainLink "component"])) = false := by
  obtain ⟨-, hchain, hother⟩ := isOf_iff_spine
  refine ⟨?_, ?_, ?_⟩
  · have hfirst := (hchain none (plainLink moduleName) [] (plainLink "component")
      [plainLink "service"] rfl).2
    exact (hfirst "component").mpr rfl
  · have hsecond := (hchain none (plainLink moduleName) [plainLink "component"]
      (plainLink "service") [] rfl).2
    exact Bool.eq_false_iff.mpr fun h => absurd ((hsecond "component").mp h) (by decide)
  · refine hother (.mk none .thisExpression) [plainLink moduleName, plainLink "component"] ?_ _
    rintro ⟨range, hlast⟩
    rw [spine_of_none rfl] at hlast
    exact absurd hlast (by simp)

end Registration

end AngularLint

import AngularLint.Angular.Binding
import AngularLint.Angular.Controller
import AngularLint.Proofs.Tree.Spine
import AngularLint.Proofs.Tree.Unplaced

/-!
# Look-ups do not see positions

A path may ask a node for its range, but no look-up of a rule does. So whatever is looked up in a
tree without ranges is what is looked up in the tree, without ranges: each look-up has a lemma here
that says so, tagged for `simp` where it needs no condition. The conditions that the others have are
on the names in a path, and are decided.

Faults are seen as well. A look-up fails in the tree without ranges where it fails in the tree, and
with the same fault, since faults name types of values only.
-/

set_option autoImplicit false

namespace AngularLint

/-- The value without ranges. A range itself stays one. -/
def Value.unplaced : Value → Value
  | plain v => plain v
  | node n => node n.unplaced
  | nodes ns => nodes (ns.map (Option.map Node.unplaced))
  | range _ => range ⟨.null, 0, 0, 0, 0⟩
  | entries es => entries (es.map fun e => (e.1, e.2.unplaced))

/-! ## Paths -/

namespace Value

@[simp] theorem unplaced_ofChild (c : Option Node) :
    ofChild (c.map Node.unplaced) = (ofChild c).unplaced := by
  cases c with
  | none => rfl
  | some n => rfl

@[simp] theorem unplaced_ofOption (v : Option Value) :
    ofOption (v.map unplaced) = (ofOption v).unplaced := by
  cases v with
  | none => rfl
  | some v => rfl

@[simp] theorem str?_unplaced (v : Value) : v.unplaced.str? = v.str? := by
  cases v <;> rfl

@[simp] theorem node?_unplaced (v : Value) : v.unplaced.node? = v.node?.map Node.unplaced := by
  cases v <;> rfl

@[simp] theorem present?_unplaced (v : Value) : v.unplaced.present? = v.present?.map unplaced := by
  cases v with
  | plain v => cases v <;> rfl
  | _ => rfl

end Value

@[simp] theorem Shape.variant_unplaced (s : Shape) : s.unplaced.variant = s.variant := by
  cases s <;> rfl

@[simp] theorem Value.type_unplaced (v : Value) : v.unplaced.type = v.type := by
  cases v with
  | plain v => rfl
  | node n => simp [unplaced, type]
  | _ => rfl

@[simp] theorem Entry.value_unplaced (e : Entry) : e.unplaced.value = e.value.unplaced := by
  cases e with
  | child n => simp [Entry.unplaced, Entry.value]
  | children nodes => simp [Entry.unplaced, Entry.value, Value.unplaced]
  | plain v => rfl

theorem Shape.fields_unplaced (s : Shape) :
    s.unplaced.fields = s.fields.map fun e => (e.1, e.2.unplaced) := by
  cases s <;> simp [Shape.unplaced, Shape.fields, Value.unplaced]

theorem Node.get?_unplaced (n : Node) {name : Text} (h : name ≠ "source_range") :
    n.unplaced.get? name = (n.get? name).map Value.unplaced := by
  have hrange : (name == "source_range") = false := beq_false_of_ne h
  -- The common names, and all names of a node with a shape of its own.
  have hown : (if name == "type" then some (Value.plain (.str n.unplaced.type))
        else if name == "source_range" then some n.unplaced.rangeValue
        else n.unplaced.shape.fields.lookup name) =
      (if name == "type" then some (Value.plain (.str n.type))
        else if name == "source_range" then some n.rangeValue
        else n.shape.fields.lookup name).map Value.unplaced := by
    rw [hrange, type_unplaced, shape_unplaced, Shape.fields_unplaced, lookup_map_snd]
    split
    · rfl
    · rfl
  cases n with
  | mk range shape =>
    cases shape with
    | other type entries =>
      cases hcommon : isCommonName name with
      | true =>
        rw [get?, get?, hcommon]
        exact hown
      | false =>
        -- Any other name of a node without such a shape is the key of an entry.
        have hentry (es : List (Text × Entry)) (range : Option Range) :
            (Node.mk range (.other type es)).get? name = (es.lookup name).map Entry.value := by
          rw [get?, hcommon]
          rfl
        rw [unplaced, Shape.unplaced, hentry, hentry, unplacedEntries_eq, lookup_map_snd,
          Option.map_map, Option.map_map]
        refine congrArg (Option.map · _) (funext fun e => ?_)
        exact e.value_unplaced
    | _ => exact hown

/-- Does the step ask for a range? -/
def Key.asksRange : Key → Bool
  | .field name => name == "source_range"
  | .position _ => false

namespace Value

/-- What is found next is absence or not, with or without ranges. -/
theorem map_bind_present? {α : Type} (found : Option α) (value : α → Value) :
    (found.bind fun a => (value a).present?).map unplaced =
      found.bind fun a => (value a).unplaced.present? := by
  cases found with
  | none => rfl
  | some a => exact (value a).present?_unplaced.symm

theorem step?_unplaced (v : Value) {key : Key} (h : key.asksRange = false) :
    v.unplaced.step? key = (v.step? key).map unplaced := by
  cases v with
  | plain w =>
    cases key with
    | position i =>
      cases w with
      | arr items =>
        show (if i < 0 then none else _) = (if i < 0 then none else _ : Option Value).map unplaced
        split
        · rfl
        · exact (map_bind_present? _ plain).symm
      | _ => simp [step?, unplaced]
    | field name =>
      cases w with
      | obj es => exact (map_bind_present? _ plain).symm
      | _ => rfl
  | node n =>
    cases key with
    | position i => simp [step?, unplaced]
    | field name =>
      show (n.unplaced.get? name).bind present? = ((n.get? name).bind present?).map unplaced
      rw [n.get?_unplaced (ne_of_beq_false h), Option.bind_map]
      exact (map_bind_present? _ id).symm
  | nodes ns =>
    cases key with
    | position i =>
      show (if i < 0 then none else _) = (if i < 0 then none else _ : Option Value).map unplaced
      split
      · rfl
      · rw [List.getElem?_map, Option.bind_map, map_bind_present? _ ofChild]
        exact congrArg (ns[i.toNat]?).bind
          (funext fun c => congrArg present? (unplaced_ofChild c))
    | field name => rfl
  | range r =>
    cases key with
    | position i => simp [step?, unplaced]
    | field name => rfl
  | entries es =>
    cases key with
    | position i => simp [step?, unplaced]
    | field name =>
      show ((es.map _).lookup name).bind _ = ((es.lookup name).bind _).map unplaced
      rw [lookup_map_snd Entry.unplaced, Option.bind_map, map_bind_present? _ Entry.value]
      exact congrArg (es.lookup name).bind
        (funext fun e => congrArg present? e.value_unplaced)

theorem follow?_unplaced (v : Value) {path : List Key} (h : path.any Key.asksRange = false) :
    v.unplaced.follow? path = (v.follow? path).map unplaced := by
  induction path generalizing v with
  | nil => rfl
  | cons key path ih =>
    rw [List.any_cons, Bool.or_eq_false_iff] at h
    rw [follow?, follow?, v.step?_unplaced h.1]
    cases v.step? key with
    | none => rfl
    | some next => exact ih next h.2

theorem at?_unplaced (v : Value) {names : List Text} (h : names.any (· == "source_range") = false) :
    v.unplaced.at? names = (v.at? names).map unplaced := by
  apply follow?_unplaced
  rw [List.any_map]
  exact h

theorem textAt_unplaced (v : Value) {names : List Text}
    (h : names.any (· == "source_range") = false) (text : Text) :
    v.unplaced.textAt names text = v.textAt names text := by
  rw [textAt, textAt, v.at?_unplaced h, Option.bind_map]
  exact congrArg (fun f => (v.at? names).bind f == some text) (funext str?_unplaced)

@[simp] theorem isNamed_unplaced (v : Value) (name : Text) :
    v.unplaced.isNamed name = v.isNamed name :=
  v.textAt_unplaced rfl name

theorem items_unplaced (v : Value) : v.unplaced.items = v.items.map (List.map unplaced) := by
  cases v with
  | plain w => cases w <;> simp [unplaced, items, Except.map, Function.comp_def]
  | node n => simp [unplaced, items, Except.map, type]
  | nodes ns => simp [unplaced, items, Except.map, Function.comp_def]
  | range r => rfl
  | entries es => simp [unplaced, items, Except.map, Function.comp_def]

theorem itemsAt_unplaced (v : Value) {names : List Text}
    (h : names.any (· == "source_range") = false) :
    v.unplaced.itemsAt names = (v.itemsAt names).map (List.map unplaced) := by
  rw [itemsAt, itemsAt, v.at?_unplaced h, unplaced_ofOption, items_unplaced]

/-! ## Objects, functions and classes -/

@[simp] theorem propertyValue?_unplaced (key : Text) (v : Value) :
    v.unplaced.propertyValue? key = (v.propertyValue? key).map (Option.map unplaced) := by
  rw [propertyValue?, propertyValue?, v.itemsAt_unplaced rfl]
  cases v.itemsAt ["properties"] with
  | error fault => rfl
  | ok properties =>
    have hkey : ((fun p : Value => p.textAt ["key", "name"] key) ∘ unplaced) =
        fun p => p.textAt ["key", "name"] key := funext fun p => p.textAt_unplaced rfl key
    show Except.ok _ = Except.ok _
    rw [List.find?_map, hkey, Option.bind_map, Option.map_bind]
    exact congrArg (fun f => Except.ok (Option.bind _ f)) (funext fun p => p.at?_unplaced rfl)

@[simp] theorem isFunction_unplaced (v : Value) : v.unplaced.isFunction = v.isFunction := by
  rw [isFunction, isFunction, v.at?_unplaced rfl]
  cases v.at? ["type"] with
  | none => rfl
  | some kind => cases kind <;> rfl

@[simp] theorem isClass_unplaced (v : Value) : v.unplaced.isClass = v.isClass :=
  v.textAt_unplaced rfl _

@[simp] theorem returned?_unplaced (v : Value) :
    v.unplaced.returned? = v.returned?.map unplaced := by
  cases v with
  | node n =>
    obtain ⟨range, shape⟩ := n
    cases shape with
    | returnStatement argument => simp [unplaced, Node.unplaced, Shape.unplaced, returned?]
    | _ => rfl
  | _ => rfl

end Value

/-! ## Chains -/

namespace Node

theorem inward?_unplaced (n : Node) : n.unplaced.inward? = n.inward?.map unplaced := by
  obtain ⟨range, shape⟩ := n
  cases shape with
  | memberExpression object property computed => exact unplacedChild_eq object
  | callExpression callee arguments => exact unplacedChild_eq callee
  | _ => rfl

theorem spine_unplaced (n : Node) : n.unplaced.spine = n.spine.map unplaced := by
  -- Inwards, link by link: whether there is a further link is the same without ranges.
  induction n using spine.induct with
  | case1 n hnone => rw [spine_of_none hnone, spine_of_none (by rw [inward?_unplaced, hnone]; rfl),
      List.map_singleton]
  | case2 n m hsome ih =>
    rw [spine_of_some hsome, spine_of_some (by rw [inward?_unplaced, hsome]; rfl), ih,
      List.map_cons]

theorem accesses_unplaced (name : Text) (n : Node) :
    n.unplaced.accesses name = n.accesses name := by
  obtain ⟨range, shape⟩ := n
  cases shape with
  | memberExpression object property computed =>
    show ((unplacedChild property).bind name? == some name) = (property.bind name? == some name)
    rw [← Value.isNamed_ofChild, ← Value.isNamed_ofChild, unplacedChild_eq, Value.unplaced_ofChild,
      Value.isNamed_unplaced]
  | _ => rfl

theorem isIdentifierOf_unplaced (name : Text) (n : Node) :
    n.unplaced.isIdentifierOf name = n.isIdentifierOf name := by
  obtain ⟨range, shape⟩ := n
  cases shape <;> rfl

theorem isIdentifier_unplaced (n : Node) : n.unplaced.isIdentifier = n.isIdentifier := by
  obtain ⟨range, shape⟩ := n
  cases shape <;> rfl

theorem linkNamed?_unplaced (name : Text) (n : Node) :
    n.unplaced.linkNamed? name = (n.linkNamed? name).map unplaced := by
  have htest : (fun m : Node => m.accesses name || m.isIdentifierOf name) ∘ unplaced =
      fun m => m.accesses name || m.isIdentifierOf name := by
    funext m
    rw [Function.comp_apply, accesses_unplaced, isIdentifierOf_unplaced]
  rw [linkNamed?_eq_find?, linkNamed?_eq_find?, spine_unplaced, List.find?_map, htest]

theorem root?_unplaced (n : Node) : n.unplaced.root? = n.root?.map unplaced := by
  rw [root?_eq_getLast?, root?_eq_getLast?, spine_unplaced, List.getLast?_map, Option.filter_map,
    show isIdentifier ∘ unplaced = isIdentifier from funext isIdentifier_unplaced]

end Node

namespace Value

@[simp] theorem linkNamed?_unplaced (name : Text) (v : Value) :
    v.unplaced.linkNamed? name = (v.linkNamed? name).map Node.unplaced := by
  rw [linkNamed?, linkNamed?, node?_unplaced, Option.bind_map, Option.map_bind]
  exact congrArg v.node?.bind (funext (Node.linkNamed?_unplaced name))

@[simp] theorem root?_unplaced (v : Value) :
    v.unplaced.root? = v.root?.map Node.unplaced := by
  rw [root?, root?, node?_unplaced, Option.bind_map, Option.map_bind]
  exact congrArg v.node?.bind (funext Node.root?_unplaced)

end Value

/-! ## Registrations -/

namespace Registration

@[simp] theorem isOf_unplaced (element : Text) (call : Value) :
    isOf element call.unplaced = isOf element call := by
  have hroot (root : Node) :
      (Value.node root.unplaced).isNamed globalName = (Value.node root).isNamed globalName :=
    (Value.node root).isNamed_unplaced globalName
  rw [isOf, isOf, call.at?_unplaced rfl, Value.unplaced_ofOption, Value.isNamed_unplaced,
    Value.linkNamed?_unplaced, Option.isSome_map, Value.root?_unplaced, Option.any_map]
  simp only [hroot]

@[simp] theorem configuration?_unplaced (call : Value) :
    configuration? call.unplaced = (configuration? call).map Value.unplaced := by
  rw [configuration?, configuration?, call.follow?_unplaced rfl, Option.bind_map, Option.map_bind]
  exact congrArg (Option.bind _) (funext Value.present?_unplaced)

@[simp] theorem name?_unplaced (call : Value) :
    name? call.unplaced = (name? call).map Value.unplaced := by
  rw [name?, name?, call.follow?_unplaced rfl, Option.bind_map, Option.map_bind]
  exact congrArg (Option.bind _) (funext Value.present?_unplaced)

@[simp] theorem directiveConfiguration?_unplaced (call : Value) :
    directiveConfiguration? call.unplaced =
      (directiveConfiguration? call).map (Option.map Value.unplaced) := by
  rw [directiveConfiguration?, directiveConfiguration?, configuration?_unplaced,
    Value.unplaced_ofOption]
  -- From here on it is a matter of the factory alone.
  generalize Value.ofOption (configuration? call) = factory
  rw [Value.isFunction_unplaced, factory.itemsAt_unplaced rfl]
  cases factory.isFunction with
  | error fault => rfl
  | ok isFunction =>
    cases isFunction with
    | false => rfl
    | true =>
      show (Except.map _ (factory.itemsAt ["body", "body"]) >>= _) = _
      cases factory.itemsAt ["body", "body"] with
      | error fault => rfl
      | ok statements =>
        show Except.ok _ = Except.ok _
        rw [List.findSome?_map,
          show Value.returned? ∘ Value.unplaced = Option.map Value.unplaced ∘ Value.returned? from
            funext Value.returned?_unplaced,
          ← List.map_findSome?, Option.bind_map, Option.map_bind]
        exact congrArg (fun f => Except.ok (Option.bind _ f)) (funext Value.present?_unplaced)

end Registration

/-! ## Bindings -/

namespace Binding

@[simp] theorem ofComponent?_unplaced (call : Value) :
    ofComponent? call.unplaced = (ofComponent? call).map (Option.map Value.unplaced) := by
  rw [ofComponent?, ofComponent?, Registration.configuration?_unplaced, Value.unplaced_ofOption,
    Value.propertyValue?_unplaced]

@[simp] theorem ofDirective?_unplaced (call : Value) :
    ofDirective? call.unplaced = (ofDirective? call).map (Option.map Value.unplaced) := by
  rw [ofDirective?, ofDirective?, Registration.directiveConfiguration?_unplaced]
  cases Registration.directiveConfiguration? call with
  | error fault => rfl
  | ok configuration =>
    show (Value.ofOption (configuration.map Value.unplaced)).propertyValue? "scope" = _
    rw [Value.unplaced_ofOption, Value.propertyValue?_unplaced]
    rfl

@[simp] theorem isTwoWay_unplaced (binding : Value) :
    isTwoWay binding.unplaced = isTwoWay binding := by
  rw [isTwoWay, isTwoWay, binding.at?_unplaced rfl]
  cases binding.at? ["value", "value"] with
  | none => rfl
  | some v => cases v <;> rfl

@[simp] theorem firstTwoWay?_unplaced (declared : Value) :
    firstTwoWay? declared.unplaced =
      (firstTwoWay? declared).map (Option.map Value.unplaced) := by
  rw [firstTwoWay?, firstTwoWay?, declared.itemsAt_unplaced rfl]
  cases declared.itemsAt ["properties"] with
  | error fault => rfl
  | ok bindings =>
    show Except.ok _ = Except.ok _
    rw [List.find?_map, show isTwoWay ∘ Value.unplaced = isTwoWay from funext isTwoWay_unplaced]

end Binding

/-! ## Controllers -/

namespace Controller

theorem statements_unplaced (controller : Value) :
    statements controller.unplaced = (statements controller).map (List.map Value.unplaced) := by
  rw [statements, statements, Value.isFunction_unplaced, Value.isClass_unplaced,
    controller.itemsAt_unplaced rfl]
  cases controller.isFunction with
  | error fault => rfl
  | ok isFunction =>
    show (if _ then _ else _) = Except.map _ (if _ then _ else _)
    split
    · rfl
    · rfl

theorem isHookMethod_unplaced (v : Value) : isHookMethod v.unplaced = isHookMethod v := by
  cases v with
  | node n =>
    obtain ⟨range, shape⟩ := n
    cases shape with
    | methodDefinition key value kind isStatic computed =>
      show (Value.ofChild (unplacedChild key)).isNamed hookName = _
      rw [unplacedChild_eq, Value.unplaced_ofChild, Value.isNamed_unplaced]
      rfl
    | _ => rfl
  | _ => rfl

theorem isHookAssignment_unplaced (v : Value) :
    isHookAssignment v.unplaced = isHookAssignment v := by
  cases v with
  | node n =>
    obtain ⟨range, shape⟩ := n
    cases shape with
    | expressionStatement expression =>
      have hpath (names : List Text) (h : names.any (· == "source_range") = false) (text : Text) :=
        (Value.node (.mk range (.expressionStatement expression))).textAt_unplaced h text
      show (_ && _) = (_ && _)
      exact congrArg₂ _ (hpath _ rfl _) (hpath _ rfl _)
    | _ => rfl
  | _ => rfl

@[simp] theorem hasHook_unplaced (controller : Value) :
    hasHook controller.unplaced = hasHook controller := by
  rw [hasHook, hasHook, statements_unplaced]
  cases statements controller with
  | error fault => rfl
  | ok statements =>
    have htest : (fun s => isHookMethod s || isHookAssignment s) ∘ Value.unplaced =
        fun s => isHookMethod s || isHookAssignment s := by
      funext s
      rw [Function.comp_apply, isHookMethod_unplaced, isHookAssignment_unplaced]
    show Except.ok _ = Except.ok _
    rw [List.any_map, htest]

end Controller

end AngularLint

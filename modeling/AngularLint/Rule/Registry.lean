import AngularLint.Rule.OnInit
import AngularLint.Rule.TestFilename
import AngularLint.Rule.TwoWayBinding

/-!
# The registry of rules

Rules are known by their ids, and run in the order of the registry.
-/

set_option autoImplicit false

namespace AngularLint

/-- Rules in the order in which they run; no two have the same id. -/
abbrev Registry (σ : Type) := List (Rule σ)

namespace Registry

variable {σ : Type}

/-- Adds a rule. A rule with the same id is replaced where it stands. -/
def insert (rule : Rule σ) : Registry σ → Registry σ
  | [] => [rule]
  | r :: rest => if r.id == rule.id then rule :: rest else r :: insert rule rest

def ofList (rules : List (Rule σ)) : Registry σ :=
  rules.foldl (fun registry rule => insert rule registry) []

def find? (id : Text) (registry : Registry σ) : Option (Rule σ) :=
  List.find? (fun r => r.id == id) registry

/-- The conventions of the tool. -/
def conventions : List Convention :=
  [TestFilename.convention, TwoWayBinding.convention, OnInit.convention]

def standard : Registry σ := conventions.map Convention.rule

theorem mem_standard_iff {rule : Rule σ} : rule ∈ (standard : Registry σ) ↔
    rule = TestFilename.rule ∨ rule = TwoWayBinding.rule ∨ rule = OnInit.rule := by
  simp only [standard, conventions, List.map_cons, List.map_nil, List.mem_cons, List.not_mem_nil,
    or_false, TestFilename.rule, TwoWayBinding.rule, OnInit.rule]

end Registry

end AngularLint

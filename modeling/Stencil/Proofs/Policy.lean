import Stencil.Builtin
import Stencil.Proofs.Simulation

/-!
# Strict and lenient lookups

A strict run follows the lenient run of the same template step by step, up to the first name that
is neither in the context nor in the globals; there it fails, and the lenient run goes on without a
value. All scopes of a run have the same policy, that of an include and of an import too.
-/

namespace Stencil

namespace Scope

theorem addDefs_withPolicy (scope : Scope) (policy : Policy) (defs : List (String × Def)) :
    Scope.addDefs { scope with policy } defs = { scope.addDefs defs with policy } := by
  induction defs generalizing scope with
  | nil => rfl
  | cons entry rest ih => exact ih (scope.addDef entry.1 entry.2)

theorem bindInto_withPolicy (scope : Scope) (policy : Policy) (template : Template) :
    template.bindInto { scope with policy } = { template.bindInto scope with policy } := by
  simp only [Template.bindInto_eq_addDefs, addDefs_withPolicy]

theorem policy_bindInto (scope : Scope) (template : Template) :
    (template.bindInto scope).policy = scope.policy := by
  rw [template.bindInto_eq_addDefs, addDefs_eq]

theorem globals_bindInto (scope : Scope) (template : Template) :
    (template.bindInto scope).globals = scope.globals := by
  rw [template.bindInto_eq_addDefs, addDefs_eq]

theorem lookup_lenient_ne {scope : Scope} (lenient : scope.policy = .lenient)
    (name missed : String) : scope.lookup name ≠ .error (.nameNotFound missed) := by
  simp only [lookup, lenient]
  cases scope.resolve name with
  | some value => simp
  | none => simp

theorem globals_contains_of_resolve {scope : Scope} {name : String}
    (missing : scope.resolve name = none) : scope.globals.contains name = false := by
  simp only [resolve] at missing
  cases own : scope.vars.get? name with
  | some value => simp [own] at missing
  | none =>
      have absent : scope.globals.get? name = none := by simpa [own] using missing
      rw [Table.contains, absent]
      rfl

end Scope

/-- A lenient run beside a strict one, over given globals. -/
def Coupling.strictness (globals : Table Json) : Coupling where
  scopes scope other :=
    scope.policy = .lenient ∧ scope.globals = globals ∧ other = { scope with policy := .strict }
  stops error := ∃ name, error = .nameNotFound name ∧ globals.contains name = false

/-- A lenient run beside itself; it finds every name. -/
def Coupling.leniency : Coupling where
  scopes scope other := scope.policy = .lenient ∧ other = scope
  misses _ := False

namespace Coupling

theorem strictness_looks (globals : Table Json) (name : String) :
    (strictness globals).Looks name := by
  rintro scope _ ⟨lenient, rfl, rfl⟩
  cases found : scope.resolve name with
  | some value =>
      have strict : Scope.resolve { scope with policy := .strict } name = some value := found
      rw [Scope.lookup_of_resolve strict, Scope.lookup_of_resolve found]
      exact .inr ⟨rfl, nofun⟩
  | none =>
      refine .inl ⟨.nameNotFound name, ?_, name, rfl, Scope.globals_contains_of_resolve found⟩
      have strict : Scope.resolve { scope with policy := .strict } name = none := found
      simp only [Scope.lookup, strict]

/-- Every body can be followed by a stricter run. -/
theorem strictness_follows (globals : Table Json) :
    (strictness globals).Follows fun _ => True where
  pages _ _ := Iff.rfl
  within _ _ _ := trivial
  defs := by
    rintro scope _ ⟨_, _, rfl⟩
    rfl
  bindInto := by
    rintro scope _ template ⟨lenient, same, rfl⟩ _
    refine ⟨?_, ?_, scope.bindInto_withPolicy .strict template⟩
    · rw [Scope.policy_bindInto, lenient]
    · rw [Scope.globals_bindInto, same]
  closed _ _ _ _ _ _ := trivial
  parts _ _ part _ := by
    unfold Supports
    split
    · exact strictness_looks globals _
    · exact strictness_looks globals _
    · rintro scope _ value ⟨lenient, same, rfl⟩
      exact ⟨rfl, lenient, same, rfl⟩
    · rintro scope _ vars ⟨lenient, same, rfl⟩
      exact ⟨lenient, same, by rw [lenient]⟩
    · trivial

theorem leniency_follows : leniency.Follows fun _ => True where
  pages _ _ := Iff.rfl
  within _ _ _ := trivial
  defs := by
    rintro scope _ ⟨_, rfl⟩
    rfl
  bindInto := by
    rintro scope _ template ⟨lenient, rfl⟩ _
    exact ⟨(Scope.policy_bindInto _ _).trans lenient, rfl⟩
  closed _ _ _ _ _ _ := trivial
  parts _ _ part _ := by
    have looks : ∀ name, leniency.Looks name := by
      rintro name scope _ ⟨lenient, rfl⟩
      exact .inr ⟨rfl, fun missed failed => Scope.lookup_lenient_ne lenient name missed failed⟩
    unfold Supports
    split
    · exact looks _
    · exact looks _
    · rintro scope _ value ⟨lenient, rfl⟩
      exact ⟨rfl, lenient, rfl⟩
    · rintro scope _ vars ⟨lenient, rfl⟩
      exact ⟨lenient, rfl⟩
    · trivial

end Coupling

/--
A strict render refines the lenient one: it ends whenever the lenient one does, and either in the
same way, or with the report of a name that is not among the globals. A lenient render never
reports a missing name.
-/
theorem Bound.strict_render_refines_lenient (bound : Bound) (depth : Nat)
    (lenient : Run String Bound)
    (ended : (bound.withPolicy .lenient).render depth = some lenient) :
    (∀ name, lenient.outcome ≠ .error (.nameNotFound name)) ∧
      ∃ strict, (bound.withPolicy .strict).render depth = some strict ∧
        ((strict.outcome = lenient.outcome ∧
            strict.state.scope.vars = lenient.state.scope.vars) ∨
          ∃ name, strict.outcome = .error (.nameNotFound name) ∧
            bound.scope.globals.contains name = false) := by
  constructor
  · intro name reported
    have related : Coupling.leniency.scopes (bound.withPolicy .lenient).scope
        (bound.withPolicy .lenient).scope := ⟨rfl, rfl⟩
    obtain ⟨_, _, ⟨_, _, impossible⟩ | ⟨_, _, finds⟩⟩ :=
      Bound.render_simulates Coupling.leniency_follows ended related rfl
    · exact impossible
    · exact finds name reported
  · have follows := Coupling.strictness_follows bound.scope.globals
    have related : (Coupling.strictness bound.scope.globals).scopes
        (bound.withPolicy .lenient).scope (bound.withPolicy .strict).scope :=
      ⟨rfl, rfl, rfl⟩
    obtain ⟨strict, strict_ended, stopped | ⟨outcome, ⟨_, _, same⟩, _⟩⟩ :=
      Bound.render_simulates follows ended related rfl
    · obtain ⟨_, outcome, name, rfl, missing⟩ := stopped
      exact ⟨strict, strict_ended, .inr ⟨name, outcome, missing⟩⟩
    · exact ⟨strict, strict_ended, .inl ⟨outcome, by rw [same]⟩⟩

open Builtin in
theorem Builtin.greeting_strict_render_refines_lenient :
    ∃ lenient, ((greeting.bind { vars := ∅ }).withPolicy .lenient).render 8 = some lenient ∧
      (∀ name, lenient.outcome ≠ .error (.nameNotFound name)) ∧
      ∃ strict, ((greeting.bind { vars := ∅ }).withPolicy .strict).render 8 = some strict ∧
        ((strict.outcome = lenient.outcome ∧
            strict.state.scope.vars = lenient.state.scope.vars) ∨
          ∃ name, strict.outcome = .error (.nameNotFound name) ∧
            Table.contains (∅ : Table Json) name = false) := by
  have ends : (((greeting.bind { vars := ∅ }).withPolicy .lenient).render 8).isSome = true := by
    decide +kernel
  obtain ⟨lenient, ended⟩ := Option.isSome_iff_exists.mp ends
  exact ⟨lenient, ended, Bound.strict_render_refines_lenient _ 8 lenient ended⟩

end Stencil

import SecretResolver.Proofs.Resolver.Calls
import SecretResolver.Proofs.Resolver.Setup
import SecretResolver.Proofs.Template.Injectivity

set_option autoImplicit false

namespace SecretResolver

def Call.id? (kind : StoreKind) : Call → Option String
  | .get id | .getString id => some id
  | .getReference reference =>
    match reference.location? kind with
    | none => some reference.id
    | some _ => none

def resolving (kind : StoreKind) (location : String) : Log.Entry where
  level := .debug
  message := "Resolving secret"
  fields := [("backend", kind.name), ("location", location)]

theorem Call.location_of_id? {kind : StoreKind} {call : Call} {id : String} (mapping : Template)
    (named : call.id? kind = some id) : call.location mapping kind = mapping.locate id := by
  cases call with
  | get id' | getString id' =>
    cases named
    rfl
  | getReference reference =>
    cases given : reference.location? kind with
    | none =>
      simp only [Call.id?, given, Option.some.injEq] at named
      simp only [Call.location, given, Option.getD_none, named]
    | some location => simp [Call.id?, given] at named

theorem Call.entry_of_id? {kind : StoreKind} {call : Call} {id : String} (mapping : Template)
    (named : call.id? kind = some id) :
    call.entry mapping kind = resolving kind (mapping.locate id) := by
  rw [← Call.location_of_id? mapping named]
  cases call with
  | get id' | getString id' => rfl
  | getReference reference =>
    cases given : reference.location? kind with
    | none => simp [Call.entry, resolving, given]
    | some location => simp [Call.id?, given] at named

namespace Resolver

section

variable [Libraries]

def LooksAt (r : Resolver (StateM Scene)) (s : Scene) (call : Call) (location : String) : Prop :=
  ∃ answer,
    let found := (r.fetch location).run (s.record (resolving r.kind location))
    (r.answer call).run s = ((answer, found.1.2), found.2)

theorem looksAt_locate {r : Resolver (StateM Scene)} {call : Call} {id : String} (s : Scene)
    (named : call.id? r.kind = some id) : r.LooksAt s call (r.mapping.locate id) := by
  obtain ⟨answer, run_eq⟩ := r.run_answer s call
  rw [Call.location_of_id? r.mapping named, Call.entry_of_id? r.mapping named] at run_eq
  exact ⟨answer, run_eq⟩

theorem locations_distinct :
    (∀ source t, Template.compile source = .ok t → Function.Injective t.locate) ∧
      ∀ source r, Constructed source r → ∃ location : String → String,
        Function.Injective location ∧ (∃ t, Template.compile source = .ok t ∧ t.locate = location) ∧
          ∀ calls s call id, let earlier := (r.answers calls).run s
            call.id? earlier.1.2.kind = some id →
              earlier.1.2.LooksAt earlier.2 call (location id) := by
  refine ⟨fun _ t _ => t.locate_injective, ?_⟩
  intro source r constructed
  refine ⟨r.mapping.locate, r.mapping.locate_injective,
    ⟨r.mapping, constructed.compile_eq, rfl⟩, ?_⟩
  intro calls s call id earlier named
  rw [← r.mapping_answers s calls]
  exact looksAt_locate earlier.2 named

end

theorem locations_distinct_environment :
    Template.compile Template.byId.source = .ok .byId ∧
      Template.byId.locate "a" ≠ Template.byId.locate "b" ∧
        Constructed Template.byId.source { mapping := .byId, store := .environment } ∧
          Resolver.LooksAt { mapping := .byId, store := .environment } {} (.get "a")
            (Template.byId.locate "a") := by
  have compiled := Template.compile_source .byId
  have made : (ofSettings { mapping := .byId, store := .environment } : StateM Scene _).run {} =
      (.ok { mapping := .byId, store := .environment },
        Scene.record {} (creating { mapping := .byId, store := .environment })) := rfl
  have constructed := Constructed.ofMapping compiled made
  obtain ⟨injective, located⟩ := locations_distinct
  obtain ⟨location, -, ⟨t, same, rfl⟩, looks⟩ := located _ _ constructed
  cases compiled.symm.trans same
  refine ⟨compiled, fun equal => ?_, constructed, looks [] {} (.get "a") "a" rfl⟩
  exact absurd (injective _ _ compiled equal) (by decide)

end Resolver

end SecretResolver

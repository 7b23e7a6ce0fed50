import RouteAdapter.Proofs.Binding.Typing
import RouteAdapter.Proofs.Ty.Descriptor

/-!
# Signatures

Handlers and accessors are bound by the texts of their descriptors. A descriptor says which types it
was made for, so binding by text is binding by signature.

* `Signature.descriptor_injective`: descriptors of signatures;
* `Linked.ofRef_signed`, `Accessor.resolve_signed`: bindings as comparisons of signatures;
* `Controller.Compiled.links_iff`: the method table of a compiled controller;
* `Signature.determined_by_descriptor`: all of this together.
-/

namespace RouteAdapter

/-- What is taken, and what is answered. -/
structure Signature where
  params : List Ty
  returns : Ty
  deriving DecidableEq

namespace Signature

def descriptor (σ : Signature) : String :=
  methodDescriptor σ.params σ.returns

/-- All its types are what some texts describe. -/
structure Described (σ : Signature) : Prop where
  params : ∀ ty ∈ σ.params, ∃ text, Ty.ofText text = .ok ty
  returns : ∃ text, Ty.ofText text = .ok σ.returns

theorem descriptor_injective {σ τ : Signature} (described : σ.Described) (described' : τ.Described)
    (same : σ.descriptor = τ.descriptor) : σ = τ := by
  have wellFormed {ty : Ty} (read : ∃ text, Ty.ofText text = .ok ty) : ty.WellFormed := by
    obtain ⟨text, read⟩ := read
    exact Ty.ofText_text read
  obtain ⟨params, returns⟩ := methodDescriptor_injective
    (fun ty member => wellFormed (described.params ty member))
    (fun ty member => wellFormed (described'.params ty member))
    (wellFormed described.returns) (wellFormed described'.returns) same
  obtain ⟨ps, r⟩ := σ
  obtain ⟨qs, s⟩ := τ
  cases params
  cases returns
  rfl

theorem described_of_keywords {σ : Signature} (params : ∀ ty ∈ σ.params, ty ∈ Ty.keywords)
    (returns : σ.returns ∈ Ty.keywords) : σ.Described :=
  ⟨fun ty member => ⟨_, Ty.wellFormed_of_keyword ty (params ty member)⟩,
    ⟨_, Ty.wellFormed_of_keyword _ returns⟩⟩

end Signature

def DeclaredMethod.signature (m : DeclaredMethod) : Signature :=
  ⟨m.params.map DeclaredParam.ty, m.returns⟩

def AccessorSpec.signature (a : AccessorSpec) : Signature :=
  ⟨a.params, a.returns⟩

def Accessor.signature (a : Accessor) : Signature :=
  ⟨a.params, a.returns⟩

theorem Accessor.signature_described (a : Accessor) : a.signature.Described := by
  refine Signature.described_of_keywords ?_ ?_
  · cases a <;> simp [signature, params, Ty.keywords]
  · cases a <;> simp [signature, returns, Ty.keywords]

/-! ## Bindings -/

variable {σ τ : Signature} {h : HandlerRegistry}

theorem Linked.ofRef_signed {m : MethodRef} {handler : Handler} (described : σ.Described)
    (described' : τ.Described) (declared : m.descriptor = τ.descriptor)
    (registered : h.get? m.symbol = some ⟨σ.descriptor, handler⟩) :
    Linked.ofRef h m =
      if σ = τ then .ok ⟨m.symbol, handler⟩
      else .error (.descriptorMismatch m.symbol τ.descriptor σ.descriptor) := by
  simp only [Linked.ofRef, registered, declared]
  by_cases same : σ = τ
  · rw [if_pos same, if_pos (congrArg Signature.descriptor same)]
  · rw [if_neg same, if_neg (mt (Signature.descriptor_injective described described') same)]

theorem Accessor.resolve_signed {name : String} {a : Accessor} (described : σ.Described)
    (named : Accessor.byName? name = some a) :
    Accessor.resolve name σ.descriptor =
      if σ = a.signature then .ok a
      else .error (.accessorMismatch name σ.descriptor a.descriptor) := by
  have own : a.descriptor = a.signature.descriptor := rfl
  simp only [Accessor.resolve, named, own]
  by_cases same : σ = a.signature
  · rw [if_pos same, if_pos (congrArg Signature.descriptor same.symm)]
  · have other : a.signature.descriptor ≠ σ.descriptor := fun descriptors =>
      same (Signature.descriptor_injective described a.signature_described descriptors.symm)
    rw [if_neg same, if_neg other]

/-- Each method has its handler, registered with this signature. -/
def Controller.Signed (c : Controller) (h : HandlerRegistry)
    (registered : DeclaredMethod → Signature)
    (handler : DeclaredMethod → Handler) : Prop :=
  ∀ m ∈ c.methods, (registered m).Described ∧
    h.get? (c.symbol m) = some ⟨(registered m).descriptor, handler m⟩

theorem Controller.Compiled.links_iff {s : Schema} {suffix : String} {c : Controller}
    {e : EmittedClass} {options : LowerOptions} {linked : Module}
    {registered : DeclaredMethod → Signature} {handler : DeclaredMethod → Handler}
    (compiled : c.Compiled s suffix e) (lowered : e.lower options = .ok linked)
    (described : ∀ m ∈ c.methods, m.signature.Described) (signed : c.Signed h registered handler) :
    (∃ methods, Linked.ofTable h linked.methods = .ok methods) ↔
      ∀ m ∈ c.methods, registered m = m.signature := by
  obtain ⟨t, functions, rfl, records, -⟩ := EmittedClass.lower_ok lowered
  constructor
  · rintro ⟨methods, bound⟩ m member
    obtain ⟨described', found⟩ := signed m member
    obtain ⟨_, known⟩ := compiled.registered_of_link records bound member
    rw [found, Option.some.injEq] at known
    exact Signature.descriptor_injective described' (described m member)
      (congrArg Registered.descriptor known)
  · intro same
    have handled : c.Handled h handler := by
      intro m member
      obtain ⟨-, found⟩ := signed m member
      rw [found, same m member]
      rfl
    exact compiled.exists_link records handled

/-- A descriptor determines its signature. So a handler is bound to the entry of an emitted method,
and an accessor to the reference of a schema, exactly if the signatures are the same, and the table
of a compiled controller is linked exactly if all are. -/
theorem Signature.determined_by_descriptor :
    (∀ σ τ : Signature, σ.Described → τ.Described → σ.descriptor = τ.descriptor →
      σ.params = τ.params ∧ σ.returns = τ.returns) ∧
    (∀ s controller m u, Emitter.emit s controller m = .ok u → m.signature.Described →
      ∀ (h : HandlerRegistry) (σ : Signature) handler, σ.Described →
        h.get? u.target.symbol = some ⟨σ.descriptor, handler⟩ →
          Linked.ofRef h u.target =
            if σ = m.signature then .ok ⟨u.target.symbol, handler⟩
            else .error (.descriptorMismatch u.target.symbol m.descriptor σ.descriptor)) ∧
    (∀ (s : Schema) (suffix : String) (c : Controller) (e : EmittedClass) options linked,
      c.Compiled s suffix e → e.lower options = .ok linked →
      (∀ m ∈ c.methods, m.signature.Described) →
      ∀ h registered handler, c.Signed h registered handler →
        ((∃ methods, Linked.ofTable h linked.methods = .ok methods) ↔
          ∀ m ∈ c.methods, registered m = m.signature)) ∧
    ∀ (a : AccessorSpec) accessor, a.signature.Described → Accessor.byName? a.name = some accessor →
      Accessor.resolve a.ref.name a.ref.descriptor =
        if a.signature = accessor.signature then .ok accessor
        else .error (.accessorMismatch a.name a.descriptor accessor.descriptor) := by
  refine ⟨fun σ τ described described' same => ?_, ?_, ?_, fun a accessor described named => ?_⟩
  · obtain rfl := Signature.descriptor_injective described described' same
    exact ⟨rfl, rfl⟩
  · intro s controller m u emitted declared h σ handler described registered
    obtain ⟨arguments, adapts⟩ := Emitter.emit_ok emitted
    have descriptor : u.target.descriptor = m.signature.descriptor := by
      rw [adapts.target]
      rfl
    exact Linked.ofRef_signed described declared descriptor registered
  · intro s suffix c e options linked compiled lowered described h registered handler signed
    exact compiled.links_iff lowered described signed
  · exact Accessor.resolve_signed (σ := a.signature) described named

/-- A handler for a method without parameters, registered for one with a string. -/
theorem Signature.determined_by_descriptor_ping :
    let ping : DeclaredMethod := ⟨"ping", [], .void⟩
    let u : AdapterUnit := ⟨"ping", ⟨"Greeter.ping", "()->void", 0⟩, [],
      [.controller ⟨"Greeter.ping", "()->void", 0⟩, .pushNoContent, .ret], [], .noContent⟩
    let e : EmittedClass := ⟨"Greeter$Adapter", "Greeter", Module.dispatchInterface, [u]⟩
    let h : HandlerRegistry := ⟨[("Greeter.ping", ⟨"(str)->void", fun _ _ => .ok .null⟩)]⟩
    ping.signature.descriptor ≠ "(str)->void" ∧ Emitter.emit .standard "Greeter" ping = .ok u ∧
      Linked.ofRef h u.target =
        .error (.descriptorMismatch "Greeter.ping" "()->void" "(str)->void") ∧
      (∃ linked, e.lower ⟨true, true, none⟩ = .ok linked ∧
        ¬∃ methods, Linked.ofTable h linked.methods = .ok methods) ∧
      Accessor.resolve "path" "(str)->value" = .ok (.single .path) := by
  intro ping u e h
  obtain ⟨apart, entry, table, accessors⟩ := determined_by_descriptor
  let other : Signature := ⟨[.str], .void⟩
  have emitted : Emitter.emit .standard "Greeter" ping = .ok u := rfl
  have declared : ping.signature.Described := described_of_keywords (by decide) (by decide)
  have described : other.Described := described_of_keywords (by decide) (by decide)
  have differ : other ≠ ping.signature := by decide
  have descriptor : other.descriptor = "(str)->void" := by decide +kernel
  have registered : h.get? "Greeter.ping" = some ⟨other.descriptor, fun _ _ => .ok .null⟩ := by
    rw [descriptor]
    rfl
  refine ⟨fun same => ?_, emitted, ?_, ?_, ?_⟩
  · obtain ⟨params, -⟩ := apart _ _ declared described (same.trans descriptor.symm)
    cases params
  · rw [entry _ _ _ _ emitted declared h other _ described registered, if_neg differ, descriptor]
    rfl
  · have compiled : (Controller.mk "Greeter" [ping]).Compiled .standard "$Adapter" e :=
      ⟨rfl, rfl, rfl, by decide, .cons emitted .nil⟩
    have signed :
        (Controller.mk "Greeter" [ping]).Signed h (fun _ => other) fun _ _ _ => .ok .null :=
      List.forall_mem_singleton.mpr ⟨described, registered⟩
    obtain ⟨linked, lowered⟩ : ∃ linked, e.lower ⟨true, true, none⟩ = .ok linked := ⟨_, rfl⟩
    refine ⟨linked, lowered, fun links => differ ?_⟩
    exact (table _ _ _ _ _ _ compiled lowered (List.forall_mem_singleton.mpr declared) _ _ _
      signed).mp links ping (List.mem_singleton_self _)
  · have path : (AccessorSpec.mk "path" [.str] .value).signature.Described :=
      described_of_keywords (by decide) (by decide)
    have descriptor : (AccessorSpec.mk "path" [.str] .value).ref.descriptor = "(str)->value" := by
      decide +kernel
    have resolved := accessors ⟨"path", [.str], .value⟩ (.single .path) path rfl
    rw [descriptor] at resolved
    exact resolved.trans (if_pos rfl)

end RouteAdapter

import Mathlib.Data.List.Forall2
import RouteAdapter.Emission.Method
import RouteAdapter.Proofs.Emission.Resolution
import RouteAdapter.Proofs.Outcome

/-!
# The unit of a method

What is known of a method that was emitted: its parameters are the resolved ones, in order, and its
body produces the arguments one after the other, calls the controller once and returns.

* `Parameter.Emits`: the operations that produce one argument;
* `DeclaredMethod.Binds`, `Parameter.resolveAll_iff_binds`: the parameters of a method;
* `Emitter.addParameters_ok`: all parameters, when none of them has an error;
* `Emitter.emit_ok`: the whole unit, as `AdapterUnit.Adapts` describes it.
-/

namespace RouteAdapter

/-! ## One argument -/

def AccessorSpec.ref (a : AccessorSpec) : AccessorRef :=
  ⟨a.name, a.descriptor, UInt8.ofNat a.params.length⟩

/-- What is written to get from the fetched type to the declared one. -/
def Chain.conversion (source target : Ty) : List Op :=
  if source = target then [] else [.convert source target]

/-- What is written for the argument of a parameter. -/
inductive Parameter.Emits (s : Schema) (p : Parameter) : List Op → Prop
  | context (source : p.source = .context) : Emits s p [.loadContext]
  | named {a : AccessorSpec} (source : p.source ≠ .context) (kind : p.kind = .named)
      (found : s.lookup (p.source, .named) = some a) (few : a.params.length < 256)
      (converts : a.returns.convertsTo p.ty = true) :
      Emits s p
        ([.loadContext, .literal p.httpName, .accessor a.ref] ++ Chain.conversion a.returns p.ty)
  | object {a : AccessorSpec} (source : p.source ≠ .context) (kind : p.kind = .object)
      (found : s.lookup (p.source, .object) = some a) (few : a.params.length < 256)
      (converts : a.returns.convertsTo p.ty = true) :
      Emits s p ([.loadContext, .accessor a.ref] ++ Chain.conversion a.returns p.ty)

theorem Parameter.Emits.mem {s : Schema} {p : Parameter} {ops : List Op} {op : Op}
    (emits : p.Emits s ops) (member : op ∈ ops) :
    op = .loadContext ∨ (∃ text, op = .literal text) ∨
      (∃ kind a, s.lookup (p.source, kind) = some a ∧ op = .accessor a.ref) ∨
        ∃ source, op = .convert source p.ty := by
  have conversion {source : Ty} (member : op ∈ Chain.conversion source p.ty) :
      ∃ source, op = .convert source p.ty := by
    unfold Chain.conversion at member
    split at member
    · cases member
    · exact ⟨source, List.mem_singleton.mp member⟩
  cases emits with
  | context => exact .inl (List.mem_singleton.mp member)
  | named source kind found few =>
      rcases List.mem_append.mp member with fetch | convert
      · simp only [List.mem_cons, List.not_mem_nil, or_false] at fetch
        rcases fetch with rfl | rfl | rfl
        · exact .inl rfl
        · exact .inr (.inl ⟨_, rfl⟩)
        · exact .inr (.inr (.inl ⟨_, _, found, rfl⟩))
      · exact .inr (.inr (.inr (conversion convert)))
  | object source kind found few =>
      rcases List.mem_append.mp member with fetch | convert
      · simp only [List.mem_cons, List.not_mem_nil, or_false] at fetch
        rcases fetch with rfl | rfl
        · exact .inl rfl
        · exact .inr (.inr (.inl ⟨_, _, found, rfl⟩))
      · exact .inr (.inr (.inr (conversion convert)))

namespace Chain

variable {s : Schema} {p : Parameter} {ops : List Op}

theorem fetch_ok {kind : SourceKind} {before : List Op} {ty : Ty}
    (fetched : fetch s p kind before = (ops, .ok ty)) :
    ∃ a, s.lookup (p.source, kind) = some a ∧ a.params.length < 256 ∧
      ops = before ++ [.accessor a.ref] ∧ ty = a.returns := by
  unfold fetch lookup accessorRef at fetched
  cases found : s.lookup (p.source, kind) with
  | none => simp [found] at fetched
  | some a =>
      by_cases few : a.params.length < 256
      · simp only [found, few, ↓reduceIte, Prod.mk.injEq, Except.ok.injEq] at fetched
        exact ⟨a, rfl, few, fetched.1.symm, fetched.2.symm⟩
      · simp [found, few] at fetched

theorem convertTop_ok {source ty : Ty} (converted : convertTop p (some source) = (ops, .ok ty)) :
    ops = conversion source p.ty ∧ source.convertsTo p.ty = true := by
  unfold convertTop at converted
  unfold conversion
  split at converted
  · rename_i missing
    cases missing
  · rename_i known top
    cases top
    split at converted
    · rename_i same
      cases converted
      exact ⟨(if_pos same).symm, by simp [Ty.convertsTo, same]⟩
    · rename_i other
      rw [if_neg other]
      split at converted
      · rename_i supported
        cases converted
        exact ⟨rfl, supported⟩
      · cases converted

theorem emitFrom_cons {top : Option Ty} {w : Writer} {chain : List Writer}
    (emitted : emitFrom s p top (w :: chain) = (ops, .ok ())) :
    ∃ first ty rest, write s p top w = (first, .ok ty) ∧
      emitFrom s p (some ty) chain = (rest, .ok ()) ∧ ops = first ++ rest := by
  rw [emitFrom] at emitted
  rcases written : write s p top w with ⟨first, e | ty⟩
  · simp [written] at emitted
  · rcases others : emitFrom s p (some ty) chain with ⟨rest, result⟩
    simp only [written, others, Prod.mk.injEq] at emitted
    obtain ⟨rfl, rfl⟩ := emitted
    exact ⟨first, ty, rest, rfl, others, rfl⟩

theorem emitFrom_fetch {kind : SourceKind} {before : List Op} {w : Writer}
    (fetches : write s p none w = fetch s p kind before)
    (emitted : emitFrom s p none [w, .convert] = (ops, .ok ())) :
    ∃ a, s.lookup (p.source, kind) = some a ∧ a.params.length < 256 ∧
      a.returns.convertsTo p.ty = true ∧
        ops = before ++ [.accessor a.ref] ++ conversion a.returns p.ty := by
  obtain ⟨first, ty, rest, written, others, rfl⟩ := emitFrom_cons emitted
  obtain ⟨last, ty', nothing, converted, finished, rfl⟩ := emitFrom_cons others
  cases finished
  rw [fetches] at written
  obtain ⟨a, found, few, rfl, rfl⟩ := fetch_ok written
  obtain ⟨rfl, converts⟩ := convertTop_ok converted
  exact ⟨a, found, few, converts, by rw [List.append_nil]⟩

theorem emit_ok (emitted : emit s p (ofParameter p) = (ops, .ok ())) : p.Emits s ops := by
  unfold emit ofParameter at emitted
  split at emitted
  · rename_i source
    obtain ⟨first, ty, rest, written, finished, rfl⟩ := emitFrom_cons emitted
    cases written
    cases finished
    exact .context source
  · rename_i source
    split at emitted
    · rename_i named
      obtain ⟨a, found, few, converts, rfl⟩ := emitFrom_fetch rfl emitted
      exact .named source (of_decide_eq_true named) found few converts
    · rename_i whole
      obtain ⟨a, found, few, converts, rfl⟩ := emitFrom_fetch rfl emitted
      have kind : p.kind = .object := by
        cases h : p.kind with
        | object => rfl
        | named => exact absurd (decide_eq_true h) whole
      exact .object source kind found few converts

end Chain

/-! ## All arguments -/

/-- The parameters of a method, in its order and each with the source that it is bound from. -/
def DeclaredMethod.Binds (m : DeclaredMethod) (params : List Parameter) : Prop :=
  List.Forall₂
    (fun declared p => ∃ source explicit, declared.1.Binds source explicit ∧
      p = declared.1.bound declared.2 source explicit)
    m.params.zipIdx params

theorem DeclaredMethod.Binds.each {m : DeclaredMethod} {params : List Parameter}
    (binds : m.Binds params) :
    List.Forall₂
      (fun d p => ∃ index source explicit, d.Binds source explicit ∧
        p = d.bound index source explicit)
      m.params params := by
  rw [← List.zipIdx_map_fst 0 m.params]
  exact List.forall₂_map_left_iff.mpr (binds.imp fun declared p bound => ⟨declared.2, bound⟩)

namespace Parameter

theorem partition_ok {ε α : Type} {results : List (Except ε α)} {values : List α} :
    partition results = ([], values) ↔ List.Forall₂ (fun r a => r = .ok a) results values := by
  induction results generalizing values with
  | nil => simp [partition, eq_comm]
  | cons r results ih =>
      rw [List.forall₂_cons_left_iff]
      cases r with
      | error e => simp [partition]
      | ok a =>
          rw [partition, Prod.mk.injEq]
          constructor
          · rintro ⟨none, rfl⟩
            exact ⟨a, _, rfl, ih.mp (Prod.ext none rfl), rfl⟩
          · rintro ⟨_, rest, first, others, rfl⟩
            cases first
            rw [ih.mpr others]
            exact ⟨rfl, rfl⟩

theorem resolveAll_ok {m : DeclaredMethod} {params : List Parameter} :
    resolveAll m = .ok params ↔
      List.Forall₂ (fun r p => r = .ok p) (m.params.mapIdx resolve) params := by
  rw [← partition_ok, resolveAll]
  rcases partition (m.params.mapIdx resolve) with ⟨errors, values⟩
  cases errors <;> simp

theorem resolveAll_eq_ok {m : DeclaredMethod} {params : List Parameter} :
    resolveAll m = .ok params ↔ m.params.mapIdx resolve = params.map .ok := by
  rw [resolveAll_ok, ← List.forall₂_eq_eq_eq, List.forall₂_map_right_iff]

theorem resolveAll_iff_binds {m : DeclaredMethod} {params : List Parameter} :
    resolveAll m = .ok params ↔ m.Binds params := by
  rw [resolveAll_ok, List.mapIdx_eq_zipIdx_map, List.forall₂_map_left_iff]
  simp only [DeclaredMethod.Binds, resolve_eq_ok]

theorem resolve_ok {index : Nat} {d : DeclaredParam} {p : Parameter}
    (resolved : resolve index d = .ok p) :
    p.ty = d.ty ∧ kindFor p.source p.ty = some p.kind := by
  obtain ⟨source, explicit, binds, rfl⟩ := resolve_eq_ok.mp resolved
  exact ⟨rfl, (kindFor_eq source d.ty).trans (if_pos binds.bindable)⟩

theorem forall₂_resolve {m : DeclaredMethod} {params : List Parameter}
    (resolved : resolveAll m = .ok params) :
    List.Forall₂ (fun d p => ∃ index, resolve index d = .ok p) m.params params := by
  refine (resolveAll_iff_binds.mp resolved).each.imp ?_
  rintro d p ⟨index, bound⟩
  exact ⟨index, resolve_eq_ok.mpr bound⟩

theorem exists_declared {m : DeclaredMethod} {params : List Parameter} {p : Parameter}
    (resolved : resolveAll m = .ok params) (member : p ∈ params) :
    ∃ index, ∃ d ∈ m.params, resolve index d = .ok p := by
  obtain ⟨d, declared, index, same⟩ :=
    exists_of_mem_forall₂_right (forall₂_resolve resolved) member
  exact ⟨index, d, declared, same⟩

/-- The context is bound as a whole. -/
theorem source_of_named {m : DeclaredMethod} {params : List Parameter} {p : Parameter}
    (resolved : resolveAll m = .ok params) (member : p ∈ params) (named : p.kind = .named) :
    p.source ≠ .context := by
  obtain ⟨index, d, -, same⟩ := exists_declared resolved member
  obtain ⟨-, bindable⟩ := resolve_ok same
  intro source
  rw [source, named] at bindable
  cases bindable

theorem length_resolveAll {m : DeclaredMethod} {params : List Parameter}
    (resolved : resolveAll m = .ok params) : params.length = m.params.length :=
  (forall₂_resolve resolved).length_eq.symm

end Parameter

/-- What is known of a unit that adapts a method, argument by argument. -/
structure AdapterUnit.Adapts (s : Schema) (controller : String) (m : DeclaredMethod)
    (u : AdapterUnit) (arguments : List (List Op)) : Prop where
  route : u.route = m.name
  params : Parameter.resolveAll m = .ok u.params
  few : u.params.length < 256
  target : u.target = ⟨controller ++ "." ++ m.name, m.descriptor, UInt8.ofNat u.params.length⟩
  emits : List.Forall₂ (Parameter.Emits s) u.params arguments
  ops : u.ops = arguments.flatten ++
    .controller u.target :: (Emitter.returnOps (.ofTy m.returns) ++ [.ret])

namespace AdapterUnit.Adapts

variable {s : Schema} {controller : String} {m : DeclaredMethod} {u : AdapterUnit}
  {arguments : List (List Op)}

theorem mem (adapts : u.Adapts s controller m arguments) {op : Op} (member : op ∈ u.ops) :
    (∃ p ∈ u.params, ∃ argument, p.Emits s argument ∧ op ∈ argument) ∨ op = .controller u.target ∨
      op = .pushNoContent ∨ (∃ ty, ty.isPrimitive ∧ op = .box ty) ∨ op = .ret := by
  rw [adapts.ops, List.mem_append, List.mem_cons, List.mem_append, List.mem_singleton] at member
  rcases member with argument | call | returned | last
  · obtain ⟨argument, known, inside⟩ := List.mem_flatten.mp argument
    obtain ⟨p, param, emits⟩ := exists_of_mem_forall₂_right adapts.emits known
    exact .inl ⟨p, param, argument, emits, inside⟩
  · exact .inr (.inl call)
  · unfold ReturnPolicy.ofTy at returned
    split at returned
    · exact .inr (.inr (.inl (List.mem_singleton.mp returned)))
    · split at returned
      · rename_i primitive
        exact .inr (.inr (.inr (.inl ⟨m.returns, primitive, List.mem_singleton.mp returned⟩)))
      · cases returned
  · exact .inr (.inr (.inr (.inr last)))

theorem eq_target (adapts : u.Adapts s controller m arguments) {r : MethodRef}
    (member : .controller r ∈ u.ops) : r = u.target := by
  rcases adapts.mem member with
    ⟨p, -, argument, emits, inside⟩ | call | other | ⟨_, -, other⟩ | other
  · rcases emits.mem inside with other | ⟨_, other⟩ | ⟨_, _, _, other⟩ | ⟨_, other⟩ <;> cases other
  · exact Op.controller.inj call
  all_goals cases other

theorem accessor_of_schema (adapts : u.Adapts s controller m arguments) {r : AccessorRef}
    (member : .accessor r ∈ u.ops) :
    ∃ source kind a, s.lookup (source, kind) = some a ∧ r = a.ref := by
  rcases adapts.mem member with
    ⟨p, -, argument, emits, inside⟩ | other | other | ⟨_, -, other⟩ | other
  · rcases emits.mem inside with other | ⟨_, other⟩ | ⟨kind, a, found, same⟩ | ⟨_, other⟩
    · cases other
    · cases other
    · exact ⟨p.source, kind, a, found, Op.accessor.inj same⟩
    · cases other
  all_goals cases other

theorem convert_to_declared (adapts : u.Adapts s controller m arguments) {source target : Ty}
    (member : .convert source target ∈ u.ops) : ∃ d ∈ m.params, target = d.ty := by
  rcases adapts.mem member with
    ⟨p, param, argument, emits, inside⟩ | other | other | ⟨_, -, other⟩ | other
  · rcases emits.mem inside with other | ⟨_, other⟩ | ⟨_, _, _, other⟩ | ⟨_, same⟩
    · cases other
    · cases other
    · cases other
    · cases same
      obtain ⟨index, d, declared, resolved⟩ := Parameter.exists_declared adapts.params param
      exact ⟨d, declared, (Parameter.resolve_ok resolved).1⟩
  all_goals cases other

end AdapterUnit.Adapts

namespace Emitter

variable {s : Schema}

theorem addParameter_ok {p : Progress} {index : Nat} {d : DeclaredParam}
    (errors : (addParameter s p index d).errors = []) :
    p.errors = [] ∧ ∃ q argument, Parameter.resolve index d = .ok q ∧ q.Emits s argument ∧
      (addParameter s p index d).params = p.params ++ [q] ∧
        (addParameter s p index d).ops = p.ops ++ argument := by
  unfold addParameter at errors ⊢
  cases resolved : Parameter.resolve index d with
  | error e => simp [resolved] at errors
  | ok q =>
      rcases emitted : Chain.emit s q (Chain.ofParameter q) with ⟨argument, e | ⟨⟩⟩
      · simp [resolved, emitted] at errors
      · simp only [resolved, emitted] at errors ⊢
        exact ⟨errors, q, argument, rfl, Chain.emit_ok emitted, rfl, rfl⟩

theorem addParameters_ok {p : Progress} {index : Nat} {ds : List DeclaredParam}
    (errors : (addParameters s p index ds).errors = []) :
    p.errors = [] ∧ ∃ params arguments,
      List.Forall₂ (fun r q => r = .ok q)
        (ds.mapIdx fun i d => Parameter.resolve (index + i) d) params ∧
      List.Forall₂ (Parameter.Emits s) params arguments ∧
      (addParameters s p index ds).params = p.params ++ params ∧
        (addParameters s p index ds).ops = p.ops ++ arguments.flatten := by
  induction ds generalizing p index with
  | nil =>
      refine ⟨errors, [], [], .nil, .nil, ?_, ?_⟩
      · exact (List.append_nil p.params).symm
      · exact (List.append_nil p.ops).symm
  | cons d ds ih =>
      rw [addParameters] at errors ⊢
      obtain ⟨none, params, arguments, resolved, emits, all, ops⟩ := ih errors
      obtain ⟨before, q, argument, first, emit, one, written⟩ := addParameter_ok none
      refine ⟨before, q :: params, argument :: arguments, ?_, .cons emit emits, ?_, ?_⟩
      · rw [List.mapIdx_cons]
        refine .cons first ?_
        simpa only [Nat.add_assoc, Nat.add_comm 1] using resolved
      · rw [all, one, List.append_assoc, List.singleton_append]
      · rw [ops, written, List.append_assoc, List.flatten_cons]

theorem emit_ok {controller : String} {m : DeclaredMethod} {u : AdapterUnit}
    (emitted : emit s controller m = .ok u) : ∃ arguments, u.Adapts s controller m arguments := by
  unfold emit emitParameters at emitted
  simp only [start, expect, ↓reduceIte] at emitted
  by_cases none : (addParameters s ⟨[], [], [], []⟩ 0 m.params).errors.isEmpty
  · obtain ⟨-, params, arguments, resolved, emits, all, ops⟩ :=
      addParameters_ok (List.isEmpty_iff.mp none)
    simp only [List.nil_append] at all ops
    simp only [Nat.zero_add] at resolved
    simp only [none, ↓reduceIte, emitInvocation, expect, all, ops] at emitted
    by_cases few : params.length < 256
    · simp only [few, ↓reduceIte, andThen, emitReturn, finish, expect, bind, Except.bind, pure,
        Except.pure, Except.mapError, Except.ok.injEq] at emitted
      subst emitted
      refine ⟨arguments, rfl, ?_, few, rfl, emits, ?_⟩
      · exact Parameter.resolveAll_ok.mpr resolved
      · simp only [List.append_assoc, List.cons_append, List.nil_append]
    · simp [few, andThen] at emitted
  · simp [none] at emitted

end Emitter
end RouteAdapter

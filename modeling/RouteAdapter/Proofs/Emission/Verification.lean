import RouteAdapter.Proofs.Binding.Arguments
import RouteAdapter.Proofs.Emission.Acceptance
import RouteAdapter.Proofs.Emission.Build

/-!
# Built modules are verified

What a build returns passes verification, whether lowering checks it or not, and a build that
returns nothing has failures in its report.

* `Function.PeaksAt`: the deepest stack that is tracked;
* `Controller.Compiled.lower`: the module of one controller;
* `Compiler.build_verified`: all of a build, and the methods at the limit.
-/

namespace RouteAdapter
open Verify

/-! ## Depths -/

/-- The verifier tracks this depth somewhere in the body, and none above it. -/
def Function.PeaksAt (m : Module) (f : Function) (peak : Nat) : Prop :=
  ∃ body, Code.decode f.code = .ok body ∧ (∃ k, depthAt m 0 body k = some peak) ∧
    ∀ k d, depthAt m 0 body k = some d → d ≤ peak

/-- The name of the last argument is pushed on top of the context and the arguments before it. -/
theorem AdapterUnit.Adapts.raises_named {s : Schema} {controller : String} {d : DeclaredMethod}
    {u : AdapterUnit} {arguments : List (List Op)} (regular : s.Regular)
    (adapts : u.Adapts s controller d arguments) (nonempty : u.params ≠ [])
    (named : ∀ p ∈ u.params, p.kind = .named) :
    ∃ ops op rest, u.ops = ops ++ op :: rest ∧ Op.Raises 0 ops (u.params.length + 1) := by
  have few := adapts.few
  have emits := adapts.emits
  have ops := adapts.ops
  obtain none | ⟨front, p, params⟩ := List.eq_nil_or_concat' u.params
  · exact absurd none nonempty
  have member : p ∈ u.params := by rw [params]; exact List.mem_append_right front List.mem_cons_self
  have source := Parameter.source_of_named adapts.params member (named p member)
  rw [params] at emits few ⊢
  rw [List.length_append, List.length_singleton] at few ⊢
  obtain ⟨before, lasts, rfl, earlier, last⟩ := exists_append_of_forall₂ emits
  have raises := Parameter.Emits.raises_all 0 regular earlier (by simp only [maxDepth]; omega)
  rw [Nat.zero_add] at raises
  cases last with
  | cons emit nothing =>
      cases nothing
      cases emit with
      | context other => exact absurd other source
      | object _ kind => cases kind.symm.trans (named p member)
      | @named a _ _ found _ =>
          refine ⟨before.flatten ++ [.loadContext, .literal p.httpName], .accessor a.ref,
            Chain.conversion a.returns p.ty ++
              .controller u.target :: (Emitter.returnOps (.ofTy d.returns) ++ [.ret]), ?_, ?_⟩
          · rw [ops]
            simp only [List.flatten_append, List.flatten_cons, List.flatten_nil, List.append_assoc,
              List.cons_append, List.nil_append, List.append_nil]
          · refine raises.append (.push (by simp) rfl ?_ (.push (by simp) rfl ?_ (.nil _))) <;>
              simp only [maxDepth] <;> omega

theorem AdapterUnit.Lowered.peaksAt {m : Module} {s : Schema} {controller : String}
    {d : DeclaredMethod} {u : AdapterUnit} {f : Function} {arguments : List (List Op)}
    (lowered : u.Lowered m.tables f) (regular : s.Regular)
    (adapts : u.Adapts s controller d arguments) (full : u.params.length = 255)
    (named : ∀ p ∈ u.params, p.kind = .named) : f.PeaksAt m 256 := by
  obtain ⟨body, rfl, instructions⟩ := lowered
  have nonempty : u.params ≠ [] := by
    intro none
    rw [none] at full
    cases full
  obtain ⟨ops, op, rest, whole, raises⟩ := adapts.raises_named regular nonempty named
  rw [whole] at instructions
  have located := Code.forall₂_locate instructions 0
  refine ⟨Code.locate 0 body, Code.decode_encode body, ⟨ops.length + 0, ?_⟩, fun k d tracked => ?_⟩
  · obtain ⟨before, after, split, front, back⟩ := exists_append_of_forall₂ located
    rw [split, raises.depthAt front, full]
    cases back
    rfl
  · exact depthAt_le_maxDepth (Nat.zero_le maxDepth) tracked

/-! ## Controllers -/

namespace Controller.Compiled

variable {s : Schema} {suffix : String} {c : Controller} {e : EmittedClass}

theorem disciplined (compiled : c.Compiled s suffix e) (regular : s.Regular) :
    ∀ u ∈ e.units, u.Disciplined := by
  intro u unit
  obtain ⟨m, -, arguments, adapts⟩ := compiled.adapts unit
  exact adapts.disciplined regular

theorem verify {options : LowerOptions} {t : Tables} {functions : List Function}
    (compiled : c.Compiled s suffix e) (regular : s.Regular)
    (units : List.Forall₂ (AdapterUnit.Lowered t) e.units functions) :
    (e.assemble options t functions).verify = .ok () :=
  EmittedClass.verify_assemble units (compiled.disciplined regular)

theorem lower (compiled : c.Compiled s suffix e) (regular : s.Regular) (options : LowerOptions)
    (addressable : e.tables.Addressable) :
    ∃ functions, e.lower options = .ok (e.assemble options e.tables functions) ∧
      List.Forall₂ (AdapterUnit.Lowered e.tables) e.units functions ∧
      (e.assemble options e.tables functions).verify = .ok () := by
  refine EmittedClass.exists_lower options (fun u unit => ?_) (compiled.disciplined regular)
    addressable
  obtain ⟨m, -, arguments, adapts⟩ := compiled.adapts unit
  exact adapts.boxable

/-- Tables are not longer than the parameters of all methods, and that of the methods is not longer
than these. -/
theorem addressable (compiled : c.Compiled s suffix e)
    (params : (c.methods.flatMap DeclaredMethod.params).length ≤ UInt32.size)
    (methods : c.methods.length ≤ UInt32.size) : e.tables.Addressable := by
  have uses {ms : List DeclaredMethod} {units : List AdapterUnit}
      (emitted : List.Forall₂ (fun m u => Emitter.emit s c.name m = .ok u) ms units) :
      Op.Uses (ms.flatMap DeclaredMethod.params).length ms.length
        (units.flatMap AdapterUnit.ops) := by
    induction emitted with
    | nil => exact ⟨Nat.le_refl 0, Nat.le_refl 0, Nat.le_refl 0, Nat.le_refl 0⟩
    | cons first _ ih =>
        obtain ⟨arguments, adapts⟩ := Emitter.emit_ok first
        rw [List.flatMap_cons, List.flatMap_cons, List.length_append, List.length_cons,
          Nat.add_comm _ 1]
        exact adapts.uses.append ih
  exact EmittedClass.addressable_of_uses (uses compiled.units) params methods

end Controller.Compiled

/-- The module is that of the controller's class, and the verifier accepts it. -/
def Controller.Built (s : Schema) (config : Config) (c : Controller) (m : Module) : Prop :=
  ∃ e functions, c.Compiled s config.classSuffix e ∧
    m = e.assemble config.lowerOptions e.tables functions ∧
    List.Forall₂ (AdapterUnit.Lowered e.tables) e.units functions ∧ m.verify = .ok ()

/-- Every table of the controller's class can be addressed by words. -/
def Controller.Addressable (s : Schema) (config : Config) (c : Controller) : Prop :=
  ∀ e, c.Compiled s config.classSuffix e → e.tables.Addressable

/-! ## Builds -/

namespace Compiler

variable {compiler : Compiler} {controllers : List Controller}

theorem regular_of_ofConfig {config : Config} (configured : ofConfig config = .ok compiler) :
    compiler.schema.Regular := by
  obtain ⟨⟨⟩, -, whole⟩ := bind_eq_ok.mp configured
  cases whole
  exact config.standard_schema.regular

theorem build_failed (failed : (compiler.compile .empty controllers).1.isOk = false) :
    compiler.build controllers = .error (.aggregate (compiler.compile .empty controllers).1) := by
  have reported : (compiler.compile .empty controllers).1.toResult =
      .error (compiler.compile .empty controllers).1 := if_neg (by rw [failed]; decide)
  simp only [build, reported]
  rfl

theorem exists_lowerAll {classes : List EmittedClass} (regular : compiler.schema.Regular)
    (sized : ∀ c ∈ controllers, c.Addressable compiler.schema compiler.config)
    (compiled : List.Forall₂ (Controller.Compiled compiler.schema compiler.config.classSuffix)
      controllers classes) :
    ∃ modules, EmittedClass.lowerAll compiler.config.lowerOptions classes = .ok modules ∧
      List.Forall₂ (Controller.Built compiler.schema compiler.config) controllers modules := by
  induction compiled with
  | nil => exact ⟨[], rfl, .nil⟩
  | @cons c e controllers classes first _ ih =>
      obtain ⟨here, later⟩ := List.forall_mem_cons.mp sized
      obtain ⟨modules, others, built⟩ := ih later
      obtain ⟨functions, lowered, units, verified⟩ := first.lower regular _ (here e first)
      exact ⟨_, bind_eq_ok.mpr ⟨_, lowered, bind_eq_ok.mpr ⟨_, others, rfl⟩⟩,
        .cons ⟨e, functions, first, rfl, units, verified⟩ built⟩

theorem exists_build (regular : compiler.schema.Regular)
    (sized : ∀ c ∈ controllers, c.Addressable compiler.schema compiler.config)
    (ok : (compiler.compile .empty controllers).1.isOk) :
    ∃ modules, compiler.build controllers = .ok modules ∧
      List.Forall₂ (Controller.Built compiler.schema compiler.config) controllers modules := by
  obtain ⟨classes, compiled, -, all⟩ := compile_ok ok
  obtain ⟨modules, lowered, built⟩ := exists_lowerAll regular sized compiled
  refine ⟨modules, build_eq_ok.mpr ⟨ok, ?_⟩, built⟩
  rw [lower, all, lowered]

theorem build_cases (regular : compiler.schema.Regular)
    (sized : ∀ c ∈ controllers, c.Addressable compiler.schema compiler.config) :
    (∃ modules, compiler.build controllers = .ok modules ∧ ∀ m ∈ modules, m.verify = .ok ()) ∨
      compiler.build controllers = .error (.aggregate (compiler.compile .empty controllers).1) ∧
        (compiler.compile .empty controllers).1.isOk = false := by
  cases ok : (compiler.compile .empty controllers).1.isOk with
  | false => exact .inr ⟨build_failed ok, rfl⟩
  | true =>
      obtain ⟨modules, built, each⟩ := exists_build regular sized ok
      refine .inl ⟨modules, built, fun m member => ?_⟩
      obtain ⟨c, -, e, functions, -, -, -, verified⟩ := exists_of_mem_forall₂_right each member
      exact verified

theorem build_wide {c : Controller} {m : DeclaredMethod} (declared : c ∈ controllers)
    (method : m ∈ c.methods) (wide : 255 < m.params.length) :
    compiler.build controllers = .error (.aggregate (compiler.compile .empty controllers).1) := by
  cases ok : (compiler.compile .empty controllers).1.isOk with
  | false => exact build_failed ok
  | true =>
      obtain ⟨classes, compiled, -, -⟩ := compile_ok ok
      obtain ⟨e, -, of⟩ := exists_of_mem_forall₂ compiled declared
      obtain ⟨u, -, emitted⟩ := exists_of_mem_forall₂ of.units method
      have few := Emitter.length_lt_of_emit emitted
      omega

theorem exists_peak {modules : List Module} {c : Controller} {m : DeclaredMethod}
    {params : List Parameter} {i j : Nat} (regular : compiler.schema.Regular)
    (sized : ∀ c ∈ controllers, c.Addressable compiler.schema compiler.config)
    (built : compiler.build controllers = .ok modules) (declared : controllers[i]? = some c)
    (method : c.methods[j]? = some m) (resolved : Parameter.resolveAll m = .ok params)
    (full : params.length = 255) (named : ∀ p ∈ params, p.kind = .named) :
    ∃ module f, modules[i]? = some module ∧ module.functions[j]? = some f ∧
      f.PeaksAt module 256 := by
  obtain ⟨modules', built', each⟩ := exists_build regular sized (build_eq_ok.mp built).1
  cases built.symm.trans built'
  obtain ⟨module, entry, e, functions, compiled, rfl, units, -⟩ := getElem?_of_forall₂ each declared
  obtain ⟨u, unit, emitted⟩ := getElem?_of_forall₂ compiled.units method
  obtain ⟨f, function, lowered⟩ := getElem?_of_forall₂ units unit
  obtain ⟨arguments, adapts⟩ := Emitter.emit_ok emitted
  cases resolved.symm.trans adapts.params
  exact ⟨_, f, entry, function, AdapterUnit.Lowered.peaksAt lowered regular adapts full named⟩

/-- A build returns modules that pass verification or the report of its failures, never a fault of
lowering. A method of written parameters is accepted with up to 255 of them, which if all are bound
by name need the whole stack, and is refused by emission with more. -/
theorem build_verified
    (known : (∃ config, ofConfig config = .ok compiler) ∨ compiler.schema.Regular)
    (sized : ∀ c ∈ controllers, c.Addressable compiler.schema compiler.config) :
    ((∃ modules, compiler.build controllers = .ok modules ∧ ∀ m ∈ modules, m.verify = .ok ()) ∨
      compiler.build controllers = .error (.aggregate (compiler.compile .empty controllers).1) ∧
        (compiler.compile .empty controllers).1.isOk = false) ∧
    (∀ controller m params, Parameter.resolveAll m = .ok params →
      (∀ p ∈ params, p.Written compiler.schema) →
        if params.length ≤ 255 then ∃ u, Emitter.emit compiler.schema controller m = .ok u
        else Emitter.emit compiler.schema controller m =
          .error [.emission (.tooManyParameters controller m.name params.length)]) ∧
    (∀ c ∈ controllers, ∀ m ∈ c.methods, 255 < m.params.length →
      ∃ report, compiler.build controllers = .error (.aggregate report)) ∧
    (∀ (modules : List Module) (i j : Nat) (c : Controller) (m : DeclaredMethod)
      (params : List Parameter), compiler.build controllers = .ok modules →
      controllers[i]? = some c → c.methods[j]? = some m → Parameter.resolveAll m = .ok params →
      params.length = 255 → (∀ p ∈ params, p.kind = .named) →
        ∃ (module : Module) (f : Function), modules[i]? = some module ∧
          module.functions[j]? = some f ∧ f.PeaksAt module 256) := by
  have regular : compiler.schema.Regular := by
    obtain ⟨config, configured⟩ | regular := known
    · exact regular_of_ofConfig configured
    · exact regular
  refine ⟨build_cases regular sized, fun controller m params resolved written => ?_,
    fun c declared m method wide => ⟨_, build_wide declared method wide⟩,
    fun modules i j c m params built declared method resolved full named => ?_⟩
  · exact Emitter.emit_written resolved written
  · exact exists_peak regular sized built declared method resolved full named

theorem ofConfig_standard : ofConfig .standard = .ok ⟨.standard, Config.standard.schema⟩ := by
  have valid : Config.standard.validate = .ok () := by decide +kernel
  rw [ofConfig, valid]
  rfl

/-- The same query value, several times. -/
def wideMethod (count : Nat) : DeclaredMethod :=
  ⟨"all", List.replicate count ⟨"q", .str, [⟨"query", none⟩]⟩, .void⟩

def wide (count : Nat) : Controller :=
  ⟨"Wide", [wideMethod count]⟩

theorem resolveAll_wideMethod (count : Nat) :
    Parameter.resolveAll (wideMethod count) =
      .ok ((List.range count).map fun i => ⟨i, "q", "q", .named, .str, .query⟩) := by
  have each (i : Nat) : Parameter.resolve i ⟨"q", .str, [⟨"query", none⟩]⟩ =
      .ok ⟨i, "q", "q", .named, .str, .query⟩ := rfl
  refine Parameter.resolveAll_ok.mpr (List.forall₂_iff_get.mpr ⟨by simp [wideMethod], ?_⟩)
  intro i _ _
  simp [wideMethod, each]

theorem build_verified_wide :
    ∃ compiler modules module f, ofConfig .standard = .ok compiler ∧
      compiler.build [wide 255] = .ok modules ∧ modules[0]? = some module ∧
      module.verify = .ok () ∧ module.functions[0]? = some f ∧ f.PeaksAt module 256 ∧
      ∃ report, compiler.build [wide 256] = .error (.aggregate report) := by
  have configured := ofConfig_standard
  have method (n : Nat) : (wide n).methods[0]? = some (wideMethod n) := rfl
  have length (n : Nat) : (wideMethod n).params.length = n := List.length_replicate
  have sized (n : Nat) (few : n ≤ 256) : ∀ c ∈ [wide n],
      c.Addressable Config.standard.schema Config.standard := by
    intro c member e compiled
    obtain rfl := List.mem_singleton.mp member
    have entries : ((wide n).methods.flatMap DeclaredMethod.params).length = n := by
      rw [wide, List.flatMap_singleton, length]
    have one : (wide n).methods.length = 1 := rfl
    refine compiled.addressable ?_ ?_ <;> rw [UInt32.size] <;> omega
  have known (n : Nat) (few : n ≤ 256) := build_verified (.inl ⟨_, configured⟩) (sized n few)
  obtain ⟨-, -, refused, -⟩ := known 256 (by decide)
  obtain ⟨⟨modules, built, verified⟩ | ⟨-, failed⟩, -, -, peak⟩ := known 255 (by decide)
  · obtain ⟨module, f, entry, function, peaks⟩ :=
      peak modules 0 0 (wide 255) (wideMethod 255) _ built rfl (method 255)
        (resolveAll_wideMethod 255) (by simp) (by simp)
    refine ⟨_, modules, module, f, configured, built, entry,
      verified module (List.mem_of_getElem? entry), function, peaks, ?_⟩
    exact refused (wide 256) List.mem_cons_self (wideMethod 256) (List.mem_of_getElem? (method 256))
      (by rw [length]; decide)
  · have ok : (compile ⟨.standard, Config.standard.schema⟩ .empty [wide 255]).1.isOk := by
      decide +kernel
    rw [ok] at failed
    cases failed

end Compiler
end RouteAdapter
